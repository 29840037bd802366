import ProbeEngine.Proofs.Message.Template
import ProbeEngine.Proofs.Results

/-!
# Segments are isolated

A template is compiled from segments, those that are all literal are joined into one text,
and a message is cut to a length. None of this mixes the segments up:

* `Segment.Gives` — what one segment gives to a message, said of the segment alone;
* `Segment.gives_piece` — each segment of a template gives one piece, `Segment.piece`;
* `Template.evaluate_of_compile` — a message is the pieces of its segments in order, cut,
  with the failures of those that fail, whether or not the template was joined;
* `Message.truncate_truncate` — cutting a text again changes nothing;
* `Template.segments_are_isolated` — **each segment has a piece of its own**.
-/

namespace ProbeEngine

open Host (Value Heap)

/-! ## Cutting a text -/

namespace Message

/-- A text is cut after so many characters, and has a mark if there were more. -/
theorem toList_truncate (n : Nat) (s : String) :
    (truncate n s).toList =
      s.toList.take n ++ if n < s.toList.length then truncationMark.toList else [] := by
  rw [truncate, Text.charCount]
  by_cases hs : s.toList.length ≤ n
  · rw [if_pos hs, if_neg (Nat.not_lt.2 hs), List.take_of_length_le hs, List.append_nil]
  · rw [if_neg hs, if_pos (Nat.lt_of_not_le hs), String.toList_append, Text.firstChars,
      String.toList_ofList]

theorem truncate_truncate (n : Nat) (s : String) : truncate n (truncate n s) = truncate n s := by
  by_cases hs : Text.charCount s ≤ n
  · have hkept : truncate n s = s := if_pos hs
    rw [hkept, hkept]
  · have hcut : truncate n s = Text.firstChars n s ++ truncationMark := if_neg hs
    have htaken : (s.toList.take n).length = n := by
      rw [List.length_take]
      exact Nat.min_eq_left (Nat.le_of_not_le hs)
    -- the mark is one character more than is kept, and what stands before it is kept
    have hmore : ¬ Text.charCount (truncate n s) ≤ n := by
      rw [hcut, Text.charCount, String.toList_append, Text.firstChars, String.toList_ofList,
        List.length_append, htaken]
      exact Nat.not_le.2 (Nat.lt_succ_self n)
    have hfirst : Text.firstChars n (truncate n s) = Text.firstChars n s := by
      rw [hcut, Text.firstChars, String.toList_append, Text.firstChars, String.toList_ofList,
        List.take_append_of_le_length (Nat.le_of_eq htaken.symm), List.take_take, Nat.min_self]
    rw [truncate, if_neg hmore, hfirst, hcut]

end Message

/-! ## Pieces -/

namespace Segment

/-- What a segment gives to a message for the variables of a call: a piece of its text and,
if it fails, a failure. A text is inserted as it is, any other value as it is rendered, and an
error in braces. -/
inductive Gives (context : Context) (h : Heap) (limits : CaptureLimits) :
    Segment → String × Option EvaluationFailure → Prop
  | literal (text : String) : Gives context h limits (.literal text) (text, none)
  | text {e : SourceExpression} {expr : Expr} {s : String} {h' : Heap}
      (hexpr : Expr.compile e.node = .ok expr)
      (hvalue : expr.evaluate context h = .ok (.string s, h')) :
      Gives context h limits (.expression e) (s, none)
  | value {e : SourceExpression} {expr : Expr} {v : Value} {h' : Heap}
      (hexpr : Expr.compile e.node = .ok expr) (hvalue : expr.evaluate context h = .ok (v, h'))
      (hv : v.string? = none) : Gives context h limits (.expression e) (inspect h' limits v, none)
  | failure {e : SourceExpression} {expr : Expr} {err : EvalError}
      (hexpr : Expr.compile e.node = .ok expr) (herr : expr.evaluate context h = .error err) :
      Gives context h limits (.expression e)
        ("\x7b" ++ err.message h ++ "\x7d", some ⟨e.text, err.message h⟩)

/-- The piece of a message that a segment gives, and its failure if it fails; nothing for a
segment that does not compile. -/
def piece (context : Context) (h : Heap) (limits : CaptureLimits) (s : Segment) :
    String × Option EvaluationFailure :=
  match TemplatePart.compile s with
  | .ok part => part.piece context h limits
  | .error _ => ("", none)

variable {context : Context} {h : Heap} {limits : CaptureLimits} {s : Segment}

theorem piece_of_compile {part : TemplatePart} (hs : TemplatePart.compile s = .ok part) :
    s.piece context h limits = part.piece context h limits := by
  rw [piece, hs]

theorem piece_of_expr {e : SourceExpression} {expr : Expr}
    (hexpr : Expr.compile e.node = .ok expr) :
    (expression e).piece context h limits =
      (TemplatePart.dynamic e.text expr).piece context h limits :=
  piece_of_compile (by rw [TemplatePart.compile, hexpr, Except.map])

/-- A segment that compiles gives its piece. -/
theorem gives_piece {part : TemplatePart} (hs : TemplatePart.compile s = .ok part) :
    s.Gives context h limits (s.piece context h limits) := by
  rw [piece_of_compile hs]
  cases s with
  | literal text =>
    cases hs
    exact .literal text
  | expression e =>
    obtain ⟨expr, hexpr, rfl⟩ := map_eq_ok_iff.1 hs
    rw [TemplatePart.piece]
    cases hvalue : expr.evaluate context h with
    | error err => exact .failure hexpr hvalue
    | ok r =>
      obtain ⟨v, h'⟩ := r
      cases v with
      | string s => exact .text hexpr hvalue
      | _ => exact .value hexpr hvalue rfl

/-- A segment gives nothing else. -/
theorem Gives.eq_piece {p : String × Option EvaluationFailure}
    (hp : s.Gives context h limits p) : p = s.piece context h limits := by
  cases hp with
  | literal text => rfl
  | text hexpr hvalue => rw [piece_of_expr hexpr, TemplatePart.piece, hvalue]
  | @value e expr v h' hexpr hvalue hv =>
    rw [piece_of_expr hexpr, TemplatePart.piece, hvalue]
    cases v with
    | string s => cases hv
    | _ => rfl
  | failure hexpr herr => rw [piece_of_expr hexpr, TemplatePart.piece, herr]

end Segment

/-! ## Templates -/

namespace Template

variable {segments : List Segment} {t : Template} {context : Context} {h : Heap}
  {limits : CaptureLimits}

/-- The pieces of a message, when its segments are compiled one by one. -/
theorem map_piece_parts {parts : List TemplatePart}
    (hparts : List.Forall₂ (fun s part => TemplatePart.compile s = .ok part) segments parts) :
    parts.map (TemplatePart.piece context h limits) =
      segments.map (Segment.piece context h limits) := by
  induction hparts with
  | nil => rfl
  | cons hs _ ih => rw [List.map_cons, List.map_cons, ih, Segment.piece_of_compile hs]

/-- Segments are literal if none has to be evaluated. -/
theorem exists_literal (hseg : needsEvaluation segments = false) {s : Segment}
    (hs : s ∈ segments) : ∃ text, s = .literal text := by
  cases s with
  | literal text => exact ⟨text, rfl⟩
  | expression e => exact absurd rfl (List.any_eq_false.1 hseg _ hs)

theorem eq_ofText_of_compile (ht : compile segments = .ok t)
    (hseg : needsEvaluation segments = false) : t = ofText (literalText segments) := by
  rw [compile, hseg, if_neg Bool.false_ne_true] at ht
  exact (Except.ok.inj ht).symm

/-- A template comes from segments that are compiled one by one, or from literal ones that are
joined. -/
theorem of_compile (ht : compile segments = .ok t) :
    List.Forall₂ (fun s part => TemplatePart.compile s = .ok part) segments t.parts ∨
      needsEvaluation segments = false := by
  cases hseg : needsEvaluation segments with
  | true =>
    rw [compile, hseg, if_pos rfl] at ht
    obtain ⟨parts, hparts, rfl⟩ := map_eq_ok_iff.1 ht
    exact .inl (mapM_eq_ok_iff.1 hparts)
  | false => exact .inr rfl

/-- Every segment of a template compiles. -/
theorem exists_part (ht : compile segments = .ok t) :
    ∀ s ∈ segments, ∃ part, TemplatePart.compile s = .ok part := by
  rcases of_compile ht with hparts | hseg
  · clear ht
    generalize t.parts = parts at hparts
    induction hparts with
    | nil => exact List.forall_mem_nil _
    | cons hs _ ih => exact List.forall_mem_cons.2 ⟨⟨_, hs⟩, ih⟩
  · intro s hs
    obtain ⟨text, rfl⟩ := exists_literal hseg hs
    exact ⟨.literal text, rfl⟩

/-- The message of a literal text is that text, whatever the variables are. -/
theorem evaluate_ofText (text : String) (context : Context) (h : Heap) (limits : CaptureLimits)
    (maxLength : Nat) :
    (ofText text).evaluate context h limits maxLength = ⟨Message.truncate maxLength text, []⟩ :=
  rfl

/-- **A message is the pieces of its segments in order**, whether these were compiled one by one
or joined. -/
theorem evaluate_of_compile (ht : compile segments = .ok t) (context : Context) (h : Heap)
    (limits : CaptureLimits) (maxLength : Nat) :
    t.evaluate context h limits maxLength =
      ⟨Message.truncate maxLength
        (String.join (segments.map fun s => (s.piece context h limits).1)),
        segments.filterMap fun s => (s.piece context h limits).2⟩ := by
  rcases of_compile ht with hparts | hseg
  · simp only [evaluate_eq, map_piece_parts hparts, List.map_map, List.filterMap_map,
      Function.comp_def]
  · have htexts : literalText segments =
        String.join (segments.map fun s => (s.piece context h limits).1) := by
      refine congrArg String.join (List.map_congr_left fun s hs => ?_)
      obtain ⟨text, rfl⟩ := exists_literal hseg hs
      rfl
    have hfailures : (segments.filterMap fun s => (s.piece context h limits).2) = [] := by
      refine List.filterMap_eq_nil_iff.2 fun s hs => ?_
      obtain ⟨text, rfl⟩ := exists_literal hseg hs
      rfl
    rw [← htexts, hfailures, eq_ofText_of_compile ht hseg, evaluate_ofText]

/-! ## One segment among others -/

theorem join_map_at (f : Segment → String) (before after : List Segment) (s : Segment) :
    String.join ((before ++ s :: after).map f) =
      String.join (before.map f) ++ f s ++ String.join (after.map f) := by
  rw [List.map_append, List.map_cons, String.join_append, String.join_cons, String.append_assoc]

theorem filterMap_at (f : Segment → Option EvaluationFailure) (before after : List Segment)
    (s : Segment) :
    (before ++ s :: after).filterMap f =
      before.filterMap f ++ (f s).toList ++ after.filterMap f := by
  rw [List.filterMap_append, List.filterMap_cons, List.append_assoc]
  cases f s <;> rfl

/-! ## Main result -/

/-- **Segments are isolated.** Each segment of a template gives one piece of the message, which
depends only on that segment, the variables of the call and the limits. The message is these
pieces in order, cut to its length, and its failures are those of the segments that fail, in
order; so another segment in the place of one changes its piece and its failure and no others.
Without expressions the message is the same for all variables. It is the whole text if that is
no longer than it may be, else as much of it as there is room for and a mark, and cutting it
again changes nothing. -/
theorem segments_are_isolated {segments : List Segment} {t : Template}
    (ht : compile segments = .ok t) (context : Context) (h : Heap) (limits : CaptureLimits)
    (maxLength : Nat) :
    let m := t.evaluate context h limits maxLength
    let whole := String.join (segments.map fun s => (s.piece context h limits).1)
    (∀ s ∈ segments, ∀ p, s.Gives context h limits p ↔ p = s.piece context h limits) ∧
    (m.text = Message.truncate maxLength whole ∧
      m.failures = segments.filterMap fun s => (s.piece context h limits).2) ∧
    (∀ (before after : List Segment) (s s' : Segment) (t' : Template),
      segments = before ++ s :: after → compile (before ++ s' :: after) = .ok t' →
      let m' := t'.evaluate context h limits maxLength
      let texts := fun part => String.join (part.map fun s => (s.piece context h limits).1)
      let failures := fun part => part.filterMap fun s => (s.piece context h limits).2
      (m.text = Message.truncate maxLength
          (texts before ++ (s.piece context h limits).1 ++ texts after) ∧
        m'.text = Message.truncate maxLength
          (texts before ++ (s'.piece context h limits).1 ++ texts after)) ∧
      m.failures = failures before ++ (s.piece context h limits).2.toList ++ failures after ∧
        m'.failures = failures before ++ (s'.piece context h limits).2.toList ++ failures after) ∧
    (needsEvaluation segments = false → ∀ context' h' limits',
      t.evaluate context' h' limits' maxLength =
        ⟨Message.truncate maxLength (literalText segments), []⟩) ∧
    (whole.toList.length ≤ maxLength → m.text = whole) ∧
    (maxLength < whole.toList.length →
      m.text.toList = whole.toList.take maxLength ++ Message.truncationMark.toList) ∧
    Message.truncate maxLength m.text = m.text := by
  intro m whole
  have hm : m = ⟨Message.truncate maxLength whole,
      segments.filterMap fun s => (s.piece context h limits).2⟩ :=
    evaluate_of_compile ht context h limits maxLength
  have htext : m.text = Message.truncate maxLength whole := congrArg Message.text hm
  refine ⟨fun s hs p => ⟨Segment.Gives.eq_piece, ?_⟩, ⟨htext, congrArg Message.failures hm⟩, ?_,
    fun hseg context' h' limits' => ?_, ?_, ?_, ?_⟩
  · rintro rfl
    obtain ⟨part, hpart⟩ := exists_part ht s hs
    exact Segment.gives_piece hpart
  · rintro before after s s' t' rfl ht'
    have hm' := evaluate_of_compile ht' context h limits maxLength
    rw [join_map_at, filterMap_at] at hm'
    simp only [whole, join_map_at, filterMap_at] at hm
    exact ⟨⟨congrArg Message.text hm, congrArg Message.text hm'⟩,
      congrArg Message.failures hm, congrArg Message.failures hm'⟩
  · rw [eq_ofText_of_compile ht hseg, evaluate_ofText]
  · intro hle
    rw [htext]
    exact if_pos hle
  · intro hlt
    rw [htext, Message.toList_truncate, if_pos hlt]
  · rw [htext, Message.truncate_truncate]

/-- A name that is not bound, between a text beyond ASCII and a value that is no text. Cut after
three characters, its message shows the beginning of the error; with a text in its place the
rest is as it was. -/
theorem segments_are_isolated_unbound :
    let reference (name : String) : Segment := .expression ⟨name, .object [("ref", .string name)]⟩
    let before : List Segment := [.literal "ä="]
    let after : List Segment := [.literal "!", reference "ok"]
    let t : Template := ⟨[.literal "ä=", .dynamic "x" (.reference (.variable "x")), .literal "!",
      .dynamic "ok" (.reference (.variable "ok"))]⟩
    let t' : Template := ⟨[.literal "ä=", .literal "5", .literal "!",
      .dynamic "ok" (.reference (.variable "ok"))]⟩
    let context : Context := OrderedTable.ofList [("ok", .bool true)]
    compile (before ++ reference "x" :: after) = .ok t ∧
      compile (before ++ .literal "5" :: after) = .ok t' ∧
      t.evaluate context {} {} 3 = ⟨"ä=\x7b…", [⟨"x", "ReferenceError: x is not defined"⟩]⟩ ∧
      t'.evaluate context {} {} 8 = ⟨"ä=5!true", []⟩ := by
  intro reference before after t t' context
  have ht : compile (before ++ reference "x" :: after) = .ok t := rfl
  have ht' : compile (before ++ .literal "5" :: after) = .ok t' := rfl
  obtain ⟨-, ⟨htext, hfailures⟩, -⟩ := segments_are_isolated ht context {} {} 3
  obtain ⟨-, ⟨htext', hfailures'⟩, -⟩ := segments_are_isolated ht' context {} {} 8
  refine ⟨ht, ht', ?_, ?_⟩
  · rw [Message.mk.injEq]
    exact ⟨htext.trans (by decide +kernel), hfailures.trans (by decide +kernel)⟩
  · rw [Message.mk.injEq]
    exact ⟨htext'.trans (by decide +kernel), hfailures'.trans (by decide +kernel)⟩

end Template

end ProbeEngine
