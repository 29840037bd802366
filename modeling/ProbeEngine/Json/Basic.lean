import ProbeEngine.Number.Binary64

/-!
# JSON values

A JSON value keeps integers apart from other numbers and the fields of an object
in order. A free-form value is held in `canonical` form: its fields in the order
of their names, and the last of several fields of one name.
-/

namespace ProbeEngine

/-- A JSON value. Integers fit in sixty-four bits, signed or unsigned; every
other number is a double. -/
inductive Json
  | null
  | bool (b : Bool)
  | integer (n : Int)
  | float (x : Float)
  | string (s : String)
  | array (items : List Json)
  | object (fields : List (String × Json))
  deriving Inhabited

namespace Json

/-- Fields sorted by name after adding one, which replaces a field of its name. -/
def insertField (name : String) (v : Json) : List (String × Json) → List (String × Json)
  | [] => [(name, v)]
  | f :: fs =>
    if name < f.1 then (name, v) :: f :: fs
    else if name = f.1 then (name, v) :: fs
    else f :: insertField name v fs

/-- The fields in order of their names, the last one of each name. -/
def sortFields (fs : List (String × Json)) : List (String × Json) :=
  fs.foldl (fun acc f => insertField f.1 f.2 acc) []

mutual

/-- The value with the fields of every object in order of their names. -/
def canonical : Json → Json
  | .array items => .array (canonicalItems items)
  | .object fields => .object (sortFields (canonicalFields fields))
  | j => j

/-- The canonical forms of the items of an array. -/
def canonicalItems : List Json → List Json
  | [] => []
  | j :: js => canonical j :: canonicalItems js

/-- The fields of an object with their values in canonical form. -/
def canonicalFields : List (String × Json) → List (String × Json)
  | [] => []
  | (name, j) :: fs => (name, canonical j) :: canonicalFields fs

end

/-- The double that a JSON number stands for. -/
def number? : Json → Option Float
  | .integer n => some (Binary64.ofInt n)
  | .float x => some x
  | _ => none

end Json

end ProbeEngine
