/-!
# Capture limits

How much of a value is kept: how deep, how many items of a collection, how many
fields of an object, and how many characters of a text.
-/

namespace ProbeEngine

/-- The limits of captured and rendered values. -/
structure CaptureLimits where
  maxReferenceDepth : Nat := 3
  maxCollectionSize : Nat := 100
  maxFieldCount : Nat := 20
  maxLength : Nat := 255
  deriving DecidableEq, Repr

end ProbeEngine
