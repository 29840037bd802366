import ProbeEngine.Condition
import ProbeEngine.Message.Template
import ProbeEngine.Proofs.Expr.Getters

/-!
# Messages and getters

The words for errors and values, and so conditions and messages, are the same
whatever stands behind the accessors of a heap: `inspect_redirect`,
`Condition.holds_redirect`, `Template.evaluate_redirect`.
-/

namespace ProbeEngine

open Host (Value Heap Property ObjectId Redirection)

variable (ρ : Redirection) (h : Heap)

theorem EvalError.message_redirect (e : EvalError) : e.message (h.redirect ρ) = e.message h := by
  cases e with
  | thrown v => exact Heap.describeThrown_redirect ρ h v
  | _ => rfl

/-! ## Rendered values -/

namespace Inspect

theorem renderNested_redirect (limits : CaptureLimits) (v : Value) :
    renderNested (h.redirect ρ) limits v = renderNested h limits v := by
  simp only [renderNested, Heap.kind_redirect, Heap.describeThrown_redirect,
    Heap.constructorName_redirect]

/-- A getter is a tag, whichever it is. -/
theorem renderProperty_redirect (limits : CaptureLimits) (f : Nat → Nat) (p : Property) :
    renderProperty (h.redirect ρ) limits (p.redirect f) = renderProperty h limits p := by
  cases p with
  | data v => exact renderNested_redirect ρ h limits v
  | accessor getter => rfl

theorem renderObject_redirect (limits : CaptureLimits) (id : ObjectId) :
    renderObject (h.redirect ρ) limits id = renderObject h limits id := by
  simp only [renderObject, Heap.constructorName_redirect, Heap.object_redirect,
    Host.HostObject.redirect, List.map_map, Function.comp_def, renderProperty_redirect]

theorem renderError_redirect (v : Value) : renderError (h.redirect ρ) v = renderError h v := by
  simp only [renderError, Heap.dataProperty?_redirect, Heap.describeThrown_redirect]

end Inspect

theorem inspect_redirect (limits : CaptureLimits) (v : Value) :
    inspect (h.redirect ρ) limits v = inspect h limits v := by
  have hnested : Inspect.renderNested (h.redirect ρ) limits = Inspect.renderNested h limits :=
    funext (Inspect.renderNested_redirect ρ h limits)
  simp only [inspect, Heap.kind_redirect, Inspect.renderError_redirect, Inspect.renderList,
    Inspect.renderMap, Inspect.renderObject_redirect, hnested]

/-! ## Conditions and templates -/

theorem Condition.evaluate_redirect (c : Condition) (context : Context) :
    c.evaluate context (h.redirect ρ) = c.evaluate context h := by
  rw [evaluate, evaluate, Expr.evaluate_redirect]
  cases c.expr.evaluate context h <;> rfl

theorem Condition.holds_redirect (c : Option Condition) (context : Context) :
    Condition.holds c context (h.redirect ρ) = Condition.holds c context h := by
  cases c with
  | none => rfl
  | some c => exact c.evaluate_redirect ρ h context

theorem TemplatePart.piece_redirect (part : TemplatePart) (context : Context)
    (limits : CaptureLimits) :
    part.piece context (h.redirect ρ) limits = part.piece context h limits := by
  cases part with
  | literal text => rfl
  | dynamic source expr =>
    rw [piece, piece, Expr.evaluate_redirect]
    cases expr.evaluate context h with
    | error e => simp only [Except.map, EvalError.message_redirect]
    | ok r =>
      obtain ⟨v, h'⟩ := r
      cases v <;> simp only [Except.map, inspect_redirect]

theorem Template.evaluate_redirect (t : Template) (context : Context) (limits : CaptureLimits)
    (maxLength : Nat) :
    t.evaluate context (h.redirect ρ) limits maxLength =
      t.evaluate context h limits maxLength := by
  have hpieces : TemplatePart.piece context (h.redirect ρ) limits =
      TemplatePart.piece context h limits :=
    funext fun part => part.piece_redirect ρ h context limits
  simp only [evaluate_eq, hpieces]

end ProbeEngine
