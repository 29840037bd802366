import ProbeEngine.Expr.Compile
import ProbeEngine.Expr.Eval
import ProbeEngine.Message.Segment

/-!
# Conditions

A condition decides whether a call is reported. It holds if its value counts as
true; where there is no condition it always holds.
-/

namespace ProbeEngine

open Host (Heap)

/-- A compiled condition with the text it was written in. -/
structure Condition where
  source : String
  expr : Expr

namespace Condition

/-- Compiles a condition. -/
def compile (e : SourceExpression) : Except CompileError Condition :=
  (Expr.compile e.node).map (Condition.mk e.text)

/-- Whether a condition holds for the variables of a call. -/
def evaluate (c : Condition) (context : Context) (h : Heap) : Except EvalError Bool :=
  (c.expr.evaluate context h).map fun r => r.1.isTruthy

/-- Whether an optional condition holds. -/
def holds (c : Option Condition) (context : Context) (h : Heap) : Except EvalError Bool :=
  match c with
  | some c => c.evaluate context h
  | none => .ok true

end Condition

end ProbeEngine
