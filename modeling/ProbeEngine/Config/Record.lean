/-!
# Records of settings

Reading a record from its fields, as a document gives them by name. Every field
has a default; one that is there must read well.
-/

namespace ProbeEngine.Record

variable {ν α : Type}

/-- The fields of a document by name. -/
abbrev Fields (ν : Type) := List (String × ν)

/-- The first field of a name. -/
def field? (fs : Fields ν) (name : String) : Option ν :=
  (fs.find? fun f => f.1 == name).map (·.2)

/-- A field with a default. -/
def withDefault? (fs : Fields ν) (name : String) (default : α) (read : ν → Option α) :
    Option α :=
  match field? fs name with
  | some v => read v
  | none => some default

/-- The fields that belong to some names, unless one of these is given twice. All
others are left out. -/
def known? (names : List String) (fs : Fields ν) : Option (Fields ν) :=
  let known := fs.filter fun f => names.contains f.1
  if (known.map (·.1)).Nodup then some known else none

/-- The fields that a list of values gives by position; it must not be longer than
the record. -/
def positional? (names : List String) (vs : List ν) : Option (Fields ν) :=
  if vs.length ≤ names.length then some (names.zip vs) else none

end ProbeEngine.Record
