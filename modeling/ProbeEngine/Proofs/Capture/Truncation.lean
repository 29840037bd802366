import ProbeEngine.Proofs.Capture.Bounds

/-!
# What a capture leaves out, and how it says so

Three limits cut a captured value by itself: the depth, the number of items, and the
length of a text. `MarksCuts` says for each of them when it applies, what then remains
of the value, and that the reason and the size stand on the node exactly then. Every
capture at every depth is marked so (`marksCuts_of_capturesAs`), and so is every node of
a captured tree, down from the root (`truncation_is_exact`).
-/

namespace ProbeEngine

open Host (Value Heap Kind PropertyKey Property ObjectId Getters)

namespace Capture

variable {g : Getters} {h : Heap} {limits : CaptureLimits} {d : Nat} {v : Value} {n m : Nat}
  {c : Captured}

/-! ## The depth -/

theorem reason_captureText (limits : CaptureLimits) (s : String) :
    (captureText limits s).reason =
      if Text.charCount s ≤ limits.maxLength then none else some .length := by
  unfold captureText
  dsimp only
  split
  · rfl
  · rfl

theorem reason_ne_depth_of_isLeaf (hc : IsLeaf limits c) : c.reason ≠ some .depth := by
  cases hc with
  | text s =>
    rw [reason_captureText]
    split <;> decide
  | _ => exact fun heq => nomatch heq

theorem reason_limited_ne_depth {limit k : Nat} {reason : NotCaptured} (hne : reason ≠ .depth)
    (type : String) (body : CapturedBody Captured) :
    (limited limit k reason type body).reason ≠ some .depth := by
  rw [(cutMarks_limited limit k reason type body).1]
  split
  · exact fun heq => hne (Option.some.inj heq)
  · exact fun heq => nomatch heq

/-- A value is left out for its depth exactly if it is nested and no level remains. -/
theorem reason_eq_depth_iff (hc : CapturesAs g h limits d v n c m) :
    c.reason = some .depth ↔ (h.kind v).IsNested ∧ limits.maxReferenceDepth ≤ d := by
  cases hc.outcome with
  | leaf hshape hleaf =>
    exact iff_of_false (reason_ne_depth_of_isLeaf hleaf) fun h => h.1 hshape
  | depth hd hnested hc =>
    rw [hc]
    exact iff_of_true rfl ⟨hnested, hd⟩
  | elements hd _ _ hc =>
    rw [hc]
    exact iff_of_false (reason_limited_ne_depth (by decide) _ _) fun h => by omega
  | entries hd _ _ hc =>
    rw [hc]
    exact iff_of_false (reason_limited_ne_depth (by decide) _ _) fun h => by omega
  | fields hd _ _ _ hc =>
    rw [hc]
    exact iff_of_false (reason_limited_ne_depth (by decide) _ _) fun h => by omega
  | error hd _ hc _ _ =>
    rw [hc]
    exact iff_of_false (fun heq => nomatch heq) fun h => by omega

/-! ## The number of items -/

/-- The parts of a source of which a limit keeps the first ones, each made into one of the
parts of the node by itself and in order. -/
def KeepsFirst {α β : Type} (R : α → Nat → β → Nat → Prop) (limit : Nat) (xs : List α) (n : Nat)
    (cs : List β) (m : Nat) : Prop :=
  cs.length = min xs.length limit ∧ InTurn R (xs.take limit) n cs m

theorem keepsFirst_of_inTurn {α β : Type} {R : α → Nat → β → Nat → Prop} {limit : Nat}
    {xs : List α} {cs : List β} (hcs : InTurn R (xs.take limit) n cs m) :
    KeepsFirst R limit xs n cs m := by
  refine ⟨?_, hcs⟩
  rw [hcs.length_eq, List.length_take, Nat.min_comm]

/-- The items of a sequence that are captured, and the marks. -/
theorem elements_of_capturesAs (hc : CapturesAs g h limits d v n c m)
    (hd : d < limits.maxReferenceDepth) {xs : List Value}
    (hshape : (h.kind v).shape = .sequence xs) :
    ∃ cs, c.body = .elements cs ∧
      KeepsFirst (CapturesAs g h limits (d + 1)) limits.maxCollectionSize xs n cs m ∧
      CutMarks limits.maxCollectionSize xs.length .collectionSize c := by
  cases hc.outcome with
  | leaf hleaf _ => cases hshape.symm.trans hleaf
  | depth hdeep _ _ => omega
  | elements _ hxs hcs hc =>
    cases hshape.symm.trans hxs
    subst hc
    exact ⟨_, body_limited _ _ _ _ _, keepsFirst_of_inTurn hcs, cutMarks_limited _ _ _ _ _⟩
  | entries _ hes _ _ => cases hshape.symm.trans hes
  | fields _ _ hfields _ _ => cases hshape.symm.trans hfields
  | error _ herror _ _ _ => cases hshape.symm.trans herror

/-- The entries of a map that are captured, the key before the value, and the marks. -/
theorem entries_of_capturesAs (hc : CapturesAs g h limits d v n c m)
    (hd : d < limits.maxReferenceDepth) {es : List (Value × Value)}
    (hshape : (h.kind v).shape = .map es) :
    ∃ cs, c.body = .entries cs ∧
      KeepsFirst (EntryInTurn (CapturesAs g h limits (d + 1))) limits.maxCollectionSize es n cs
        m ∧
      CutMarks limits.maxCollectionSize es.length .collectionSize c := by
  cases hc.outcome with
  | leaf hleaf _ => cases hshape.symm.trans hleaf
  | depth hdeep _ _ => omega
  | elements _ hxs _ _ => cases hshape.symm.trans hxs
  | entries _ hes hcs hc =>
    cases hshape.symm.trans hes
    subst hc
    exact ⟨_, body_limited _ _ _ _ _, keepsFirst_of_inTurn hcs, cutMarks_limited _ _ _ _ _⟩
  | fields _ _ hfields _ _ => cases hshape.symm.trans hfields
  | error _ herror _ _ _ => cases hshape.symm.trans herror

/-! ## The length -/

/-- A text is captured whole exactly if it is no longer than the limit. -/
theorem captureText_eq_primitive_iff (limits : CaptureLimits) (s : String) :
    captureText limits s = .primitive "string" s ↔ Text.charCount s ≤ limits.maxLength := by
  unfold captureText
  dsimp only
  split
  · exact iff_of_true rfl (by assumption)
  · refine iff_of_false (fun heq => ?_) (by assumption)
    cases congrArg Captured.truncated heq

theorem captureText_of_lt {s : String} (hs : limits.maxLength < Text.charCount s) :
    captureText limits s =
      .mk "string" (.value (Text.firstChars limits.maxLength s)) true
        (some (Text.charCount s)) (some .length) :=
  if_neg (Nat.not_le.2 hs)

theorem eq_captureText {s : String} (hc : CapturesAs g h limits d (.string s) n c m) :
    c = captureText limits s := by
  rw [CapturesAs, captureWithin_leaf rfl] at hc
  cases hc
  rfl

/-! ## Main result -/

/-- That the capture of a value at a depth shows what the depth, the number of items and the
length leave out of it, and no more than that. -/
structure MarksCuts (g : Getters) (h : Heap) (limits : CaptureLimits) (d : Nat) (v : Value)
    (n : Nat) (c : Captured) (m : Nat) : Prop where
  depth : c.reason = some .depth ↔ (h.kind v).IsNested ∧ limits.maxReferenceDepth ≤ d
  elements : d < limits.maxReferenceDepth → ∀ xs, (h.kind v).shape = .sequence xs →
    ∃ cs, c.body = .elements cs ∧
      KeepsFirst (CapturesAs g h limits (d + 1)) limits.maxCollectionSize xs n cs m ∧
      CutMarks limits.maxCollectionSize xs.length .collectionSize c
  entries : d < limits.maxReferenceDepth → ∀ es, (h.kind v).shape = .map es →
    ∃ cs, c.body = .entries cs ∧
      KeepsFirst (EntryInTurn (CapturesAs g h limits (d + 1))) limits.maxCollectionSize es n cs
        m ∧
      CutMarks limits.maxCollectionSize es.length .collectionSize c
  text : ∀ s, v = .string s →
    (c = .primitive "string" s ↔ Text.charCount s ≤ limits.maxLength) ∧
    (limits.maxLength < Text.charCount s →
      c = .mk "string" (.value (Text.firstChars limits.maxLength s)) true
        (some (Text.charCount s)) (some .length))

theorem marksCuts_of_capturesAs (hc : CapturesAs g h limits d v n c m) :
    MarksCuts g h limits d v n c m where
  depth := reason_eq_depth_iff hc
  elements hd _ hshape := elements_of_capturesAs hc hd hshape
  entries hd _ hshape := entries_of_capturesAs hc hd hshape
  text s hs := by
    subst hs
    rw [eq_captureText hc]
    exact ⟨captureText_eq_primitive_iff limits s, captureText_of_lt⟩

/-- **What is left out is exact and visible.** The root of a captured tree is the capture of
the value at depth 0; every node is the capture of some value at its depth or stands for a
getter that threw; and whatever value is captured at whatever depth, the depth, the number of
items and the length cut exactly what is above their limits and are marked exactly then. -/
theorem truncation_is_exact (g : Getters) (h : Heap) (limits : CaptureLimits) (v : Value)
    (calls : Nat) :
    let t := ((capture g h limits v).run calls).1
    MarksCuts g h limits 0 v calls t ((capture g h limits v).run calls).2 ∧
    (∀ d c, t.HasNode d c →
      c.IsAccessError ∨ ∃ x n m, CapturesAs g h limits d x n c m) ∧
    ∀ d x n c m, CapturesAs g h limits d x n c m → MarksCuts g h limits d x n c m := by
  intro t
  have ht := capturesAs_capture g h limits v calls
  refine ⟨marksCuts_of_capturesAs ht, ?_, ?_⟩
  · intro d c hc
    exact (isPart_of_hasNode ht hc).2
  · intro d x n c m hc
    exact marksCuts_of_capturesAs hc

end Capture

end ProbeEngine
