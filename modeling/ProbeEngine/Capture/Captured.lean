import ProbeEngine.Json.Basic

/-!
# Captured values

A captured value is a tree: a type, what was kept of the value, and, where
something is missing, why and how much there was. Its JSON form leaves out what
does not apply.
-/

namespace ProbeEngine

/-- Why something of a value is missing. -/
inductive NotCaptured
  | depth
  | collectionSize
  | fieldCount
  | length
  | unintrospectable
  | unsupported
  | accessError (text : String)
  deriving DecidableEq, Repr

/-- The words for a reason. -/
def NotCaptured.text : NotCaptured → String
  | .depth => "depth"
  | .collectionSize => "collectionSize"
  | .fieldCount => "fieldCount"
  | .length => "length"
  | .unintrospectable => "unintrospectable"
  | .unsupported => "unsupported"
  | .accessError e => "error reading value: " ++ e

/-- What was kept of a value, with its parts in a type `α`. The mark of `null` that it
is null is always true, so it is left out here; the JSON form has it. -/
inductive CapturedBody (α : Type)
  | value (text : String)
  | null
  | fields (fs : List (String × α))
  | elements (xs : List α)
  | entries (es : List (α × α))
  | empty

/-- A captured value. -/
inductive Captured
  | mk (type : String) (body : CapturedBody Captured) (truncated : Bool) (size : Option Nat)
      (reason : Option NotCaptured)

namespace Captured

/-- A captured value of which nothing is missing. -/
def whole (type : String) (body : CapturedBody Captured) : Captured := mk type body false none none

/-- A captured primitive value. -/
def primitive (type text : String) : Captured := whole type (.value text)

/-- A value of which nothing was kept. -/
def missing (type : String) (reason : NotCaptured) : Captured :=
  mk type .empty false none (some reason)

/-- A captured value of which some is missing, with the size of it all. -/
def cut (type : String) (body : CapturedBody Captured) (size : Nat) (reason : NotCaptured) :
    Captured :=
  mk type body false (some size) (some reason)

/-- The type of a captured value. -/
def type : Captured → String
  | mk t _ _ _ _ => t

/-- What was kept. -/
def body : Captured → CapturedBody Captured
  | mk _ b _ _ _ => b

/-- Whether a text was cut. -/
def truncated : Captured → Bool
  | mk _ _ t _ _ => t

/-- The size of what was cut. -/
def size : Captured → Option Nat
  | mk _ _ _ s _ => s

/-- Why something is missing. -/
def reason : Captured → Option NotCaptured
  | mk _ _ _ _ r => r

/-! ## JSON form -/

/-- The fields that come after the body, those that apply. -/
def markFields (truncated : Bool) (size : Option Nat) (reason : Option NotCaptured) :
    List (String × Json) :=
  (if truncated then [("truncated", .bool true)] else []) ++
    (match size with
      | some n => [("size", Json.integer n)]
      | none => []) ++
    (match reason with
      | some r => [("notCapturedReason", Json.string r.text)]
      | none => [])

mutual

/-- The JSON form of a captured value. -/
def toJson : Captured → Json
  | mk type body truncated size reason =>
    .object (("type", .string type) :: bodyFields body ++ markFields truncated size reason)

/-- The field that holds the body. -/
def bodyFields : CapturedBody Captured → List (String × Json)
  | .value text => [("value", .string text)]
  | .null => [("isNull", .bool true)]
  | .fields fs => [("fields", .object (fieldsToJson fs))]
  | .elements xs => [("elements", .array (elementsToJson xs))]
  | .entries es => [("entries", .array (entriesToJson es))]
  | .empty => []

/-- The JSON forms of named values. -/
def fieldsToJson : List (String × Captured) → List (String × Json)
  | [] => []
  | (name, c) :: fs => (name, toJson c) :: fieldsToJson fs

/-- The JSON forms of some values. -/
def elementsToJson : List Captured → List Json
  | [] => []
  | c :: cs => toJson c :: elementsToJson cs

/-- The JSON forms of pairs of values. -/
def entriesToJson : List (Captured × Captured) → List Json
  | [] => []
  | (k, v) :: es => .array [toJson k, toJson v] :: entriesToJson es

end

end Captured

end ProbeEngine
