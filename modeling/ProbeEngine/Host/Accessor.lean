import ProbeEngine.Host.Heap

/-!
# Accessors

What stands behind the accessor properties of a heap. A getter is code of the
host: it may answer something else on each call, so its answer depends on how
many getters ran before.
-/

namespace ProbeEngine.Host

/-- The functions behind accessors: what running a getter on a receiver returns,
or throws. -/
structure Getters where
  call : Heap → (getter : Nat) → (calls : Nat) → (receiver : Value) → Except Value Value

/-- A computation that may run getters, and counts them. -/
abbrev Counting := StateM Nat

/-- Runs a getter. -/
def Getters.run (g : Getters) (h : Heap) (getter : Nat) (receiver : Value) :
    Counting (Except Value Value) := do
  let calls ← get
  set (calls + 1)
  return g.call h getter calls receiver

end ProbeEngine.Host
