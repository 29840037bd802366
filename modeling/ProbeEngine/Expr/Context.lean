import ProbeEngine.Expr.Basic

/-!
# Contexts

The variables that an expression can see: those of the instrumented call, and
those of the innermost loop around it.
-/

namespace ProbeEngine

open Host (Value)

/-- The variables of a call, in the order in which they were bound. -/
abbrev Context := OrderedTable String Value

/-- The variables of a call and those of the loop around an expression. -/
structure Scope where
  context : Context
  item : Option Value := none
  key : Option Value := none
  value : Option Value := none

namespace Scope

/-- The scope inside a loop over items. -/
def withItem (s : Scope) (v : Value) : Scope := { s with item := some v }

/-- The scope inside a loop over entries. -/
def withEntry (s : Scope) (k v : Value) : Scope := { s with key := some k, value := some v }

/-- The value that a reference names. -/
def resolve? (s : Scope) : Reference → Option Value
  | .item => s.item
  | .key => s.key
  | .value => s.value
  | .variable name => s.context.get? name

end Scope

end ProbeEngine
