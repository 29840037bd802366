import ProbeEngine.Json.DecodeError

/-!
# Decoding JSON

What a JSON value stands for where a text, a number, a choice or a record is
expected. Nothing is converted: a text is no number, and a number with a fraction
is no integer even if the fraction is zero. A record is an object of its fields,
or an array of them in their order; it is read field by field, as the document
gives them, from what it is without any.
-/

namespace ProbeEngine.Json

/-- Reading a JSON value. -/
abbrev Decoder (α : Type) := Json → Except DecodeError α

/-- Reads a text. -/
def readText : Decoder String
  | .string s => .ok s
  | j => .error (.wrongType j "a string")

/-- Reads a truth value. -/
def readBool : Decoder Bool
  | .bool b => .ok b
  | j => .error (.wrongType j "a boolean")

/-- Reads a natural number of a type that has a greatest one. -/
def readNatural (type : String) (greatest : Nat) : Decoder Nat
  | .integer n =>
    if 0 ≤ n ∧ n ≤ greatest then .ok n.toNat else .error (.wrongValue (.integer n) type)
  | j => .error (.wrongType j type)

/-- Reads a natural number of sixty-four bits. -/
def readNatural64 : Decoder Nat := readNatural "u64" (UInt64.size - 1)

/-- Reads a natural number of thirty-two bits. -/
def readNatural32 : Decoder Nat := readNatural "u32" (UInt32.size - 1)

/-- Reads a size, which has sixty-four bits. -/
def readSize : Decoder Nat := readNatural "usize" (UInt64.size - 1)

/-- Reads a double. -/
def readNumber : Decoder Float := fun j =>
  match j.number? with
  | some x => .ok x
  | none => .error (.wrongType j "f64")

/-- Reads what may be null, which stands for nothing. -/
def readOptional {α : Type} (read : Decoder α) : Decoder (Option α)
  | .null => .ok none
  | j => (read j).map some

/-- Reads an array, item by item. -/
def readList {α : Type} (read : Decoder α) : Decoder (List α)
  | .array items => items.mapM read
  | j => .error (.wrongType j "a sequence")

/-- A word that has to be one of some choices. -/
def chosen (choices : List String) (word : String) : Except DecodeError String :=
  if choices.contains word then .ok word else .error (.unknownChoice word choices)

/-- Reads a choice: a text, or an object of one field that holds null. -/
def readChoice (choices : List String) : Decoder String
  | .string word => chosen choices word
  | .object [(word, content)] => do
    let word ← chosen choices word
    match content with
    | .null => .ok word
    | j => .error (.wrongType j "unit")
  | .object fields => .error (.wrongValue (.object fields) "map with a single key")
  | j => .error (.wrongType j "string or map")

/-! ## Records -/

/-- The shape of a record: its name, the names of its fields in order, and those of
the fields that have to be there. -/
structure RecordShape where
  name : String
  fields : List String
  required : List String := []

/-- How a record changes by a field of a name. -/
abbrev FieldReader (α : Type) := α → String → Decoder α

namespace RecordShape

/-- What an array of too few items should have been. -/
def expected (s : RecordShape) : String :=
  "struct " ++ s.name ++ " with " ++ toString s.fields.length ++ " elements"

/-- Whether a field has to be there. -/
def requires (s : RecordShape) (name : String) : Bool := s.required.contains name

/-- Reads the fields of an object in their order; those before the first one have
some names. Unknown fields are left out. -/
def readFields {α : Type} (s : RecordShape) (read : FieldReader α) :
    List String → List (String × Json) → α → Except DecodeError α
  | seen, [], a =>
    match s.required.find? fun name => !seen.contains name with
    | some name => .error (.missingField name)
    | none => .ok a
  | seen, (name, j) :: fs, a =>
    if !s.fields.contains name then readFields s read seen fs a
    else if seen.contains name then .error (.duplicateField name)
    else do
      let a' ← read a name j
      readFields s read (name :: seen) fs a'

/-- Reads the items of an array of some length as fields with some names. -/
def readItems {α : Type} (s : RecordShape) (read : FieldReader α) (all : Nat) :
    List String → List Json → α → Except DecodeError α
  | names, [], a =>
    match names.findIdx? s.requires with
    | some i => .error (.wrongLength (all + i) s.expected)
    | none => .ok a
  | [], _ :: _, _ => .error (.wrongLength all "fewer elements in array")
  | name :: names, j :: js, a => do
    let a' ← read a name j
    readItems s read all names js a'

/-- Reads a record, starting from one without fields. -/
def decode {α : Type} (s : RecordShape) (start : α) (read : FieldReader α) : Decoder α
  | .object fields => s.readFields read [] fields start
  | .array items => s.readItems read items.length s.fields items start
  | j => .error (.wrongType j ("struct " ++ s.name))

end RecordShape

/-! ## Writing records -/

/-- An optional field of an object, left out where there is nothing. -/
def optionalField (name : String) : Option Json → List (String × Json)
  | some j => [(name, j)]
  | none => []

end ProbeEngine.Json
