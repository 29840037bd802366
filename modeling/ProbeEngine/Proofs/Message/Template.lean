import ProbeEngine.Message.Template

/-!
# What a template depends on

The failures of a message are those of its expressions, in the order of the
segments (`failures_evaluate`). A template without expressions gives the same
message whatever the variables of the call are (`evaluate_of_not_isDynamic`). What
is said by a template with some depends on what these come to (`piecesFrom_evaluate`).
-/

namespace ProbeEngine

open Host (Value Heap)

namespace TemplatePart

/-- The failure of a part, if its expression has no value. -/
def failure? (context : Context) (h : Heap) : TemplatePart → Option EvaluationFailure
  | .literal _ => none
  | .dynamic source expr =>
    match expr.evaluate context h with
    | .ok _ => none
    | .error e => some ⟨source, e.message h⟩

theorem snd_piece (context : Context) (h : Heap) (limits : CaptureLimits) (part : TemplatePart) :
    (part.piece context h limits).2 = part.failure? context h := by
  cases part with
  | literal text => rfl
  | dynamic source expr =>
    rw [piece, failure?]
    cases expr.evaluate context h with
    | error e => rfl
    | ok r =>
      obtain ⟨v, h'⟩ := r
      cases v <;> rfl

theorem piece_of_not_isDynamic {part : TemplatePart} (hp : part.isDynamic = false)
    (context context' : Context) (h : Heap) (limits : CaptureLimits) :
    part.piece context h limits = part.piece context' h limits := by
  cases part with
  | literal text => rfl
  | dynamic source expr => cases hp

/-! ## Pieces from what expressions came to -/

/-- The expression of a part of a template, if it is one. -/
def expr? : TemplatePart → Option Expr
  | .literal _ => none
  | .dynamic _ expr => some expr

/-- The piece of a message that an expression gives, from what it came to. -/
def pieceFrom (h : Heap) (limits : CaptureLimits) (source : String) :
    Except EvalError (Value × Heap) → String × Option EvaluationFailure
  | .ok (.string s, _) => (s, none)
  | .ok (v, h') => (inspect h' limits v, none)
  | .error e => ("\x7b" ++ e.message h ++ "\x7d", some ⟨source, e.message h⟩)

theorem piece_dynamic (context : Context) (h : Heap) (limits : CaptureLimits) (source : String)
    (expr : Expr) :
    piece context h limits (.dynamic source expr) =
      pieceFrom h limits source (expr.evaluate context h) := by
  rw [piece]
  cases expr.evaluate context h with
  | error e => rfl
  | ok r =>
    obtain ⟨v, h'⟩ := r
    cases v <;> rfl

/-- The pieces that some parts give, from what the expressions among them came to. -/
def piecesFrom (h : Heap) (limits : CaptureLimits) :
    List TemplatePart → List (Except EvalError (Value × Heap)) →
      List (String × Option EvaluationFailure)
  | [], _ => []
  | .literal text :: parts, os => (text, none) :: piecesFrom h limits parts os
  | .dynamic _ _ :: _, [] => []
  | .dynamic source _ :: parts, o :: os =>
    pieceFrom h limits source o :: piecesFrom h limits parts os

theorem piecesFrom_evaluate (context : Context) (h : Heap) (limits : CaptureLimits)
    (parts : List TemplatePart) :
    piecesFrom h limits parts ((parts.filterMap expr?).map fun e => e.evaluate context h) =
      parts.map (piece context h limits) := by
  induction parts with
  | nil => rfl
  | cons part parts ih =>
    cases part with
    | literal text => exact congrArg ((text, none) :: ·) ih
    | dynamic source expr =>
      rw [List.map_cons, piece_dynamic, ← ih]
      rfl

end TemplatePart

namespace Template

/-- The failures of a message are those of its segments, in their order. -/
theorem failures_evaluate (t : Template) (context : Context) (h : Heap) (limits : CaptureLimits)
    (maxLength : Nat) :
    (t.evaluate context h limits maxLength).failures =
      t.parts.filterMap (TemplatePart.failure? context h) := by
  have hf : (fun x => x.2) ∘ TemplatePart.piece context h limits =
      TemplatePart.failure? context h :=
    funext fun part => TemplatePart.snd_piece context h limits part
  simp only [evaluate_eq, List.filterMap_map, hf]

/-- A template without expressions does not read the variables of a call. -/
theorem evaluate_of_not_isDynamic {t : Template} (ht : t.isDynamic = false)
    (context context' : Context) (h : Heap) (limits : CaptureLimits) (maxLength : Nat) :
    t.evaluate context h limits maxLength = t.evaluate context' h limits maxLength := by
  have hparts : t.parts.map (TemplatePart.piece context h limits) =
      t.parts.map (TemplatePart.piece context' h limits) := by
    refine List.map_congr_left fun part hpart => ?_
    have hd : part.isDynamic = false := by
      simpa using List.any_eq_false.1 ht part hpart
    exact TemplatePart.piece_of_not_isDynamic hd context context' h limits
  simp only [evaluate_eq, hparts]

end Template

end ProbeEngine
