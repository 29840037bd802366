import ProbeEngine.Capture.Captured
import ProbeEngine.Capture.Limits
import ProbeEngine.Host.Accessor
import ProbeEngine.Host.Conversion
import ProbeEngine.Text.Search

/-!
# Capturing values

A value is captured as a tree within limits. Objects may be cyclic, so the depth
alone ends the capture: an object so deep that no level remains is kept by its
type. Accessors are run; one that throws is kept as the words of what it threw.
-/

namespace ProbeEngine

open Host (Value Heap Kind PropertyKey Property ObjectId Getters Counting)

namespace Capture

/-- A text, cut after so many characters. -/
def captureText (limits : CaptureLimits) (s : String) : Captured :=
  let n := Text.charCount s
  if n ≤ limits.maxLength then .primitive "string" s
  else
    .mk "string" (.value (Text.firstChars limits.maxLength s)) true (some n) (some .length)

/-- A body with `n` parts of which a limit keeps the first ones. -/
def limited (limit n : Nat) (reason : NotCaptured) (type : String) (body : CapturedBody Captured) :
    Captured :=
  if limit < n then .cut type body n reason else .whole type body

/-- A property by a capture of values: an accessor is run on the receiver. -/
def captureProperty (capture : Value → Counting Captured) (g : Getters) (h : Heap)
    (receiver : Value) : Option Property → Counting Captured
  | some (.data v) => capture v
  | some (.accessor getter) => do
    match ← g.run h getter receiver with
    | .ok v => capture v
    | .error thrown => return .missing "unknown" (.accessError (h.describeThrown thrown))
  | none => return .whole "undefined" .empty

/-- The own properties of an object, the first ones that the limit keeps. Keys
that read alike share one field. -/
def captureFields (capture : Value → Counting Captured) (g : Getters) (h : Heap)
    (limits : CaptureLimits) (id : ObjectId) : Counting Captured := do
  let ps := (h.object id).properties.entries
  let fs ← (ps.take limits.maxFieldCount).mapM fun p => do
    return (p.1.text, ← captureProperty capture g h (.object id) (some p.2))
  return limited limits.maxFieldCount ps.length .fieldCount (h.constructorName id)
    (.fields (OrderedTable.ofList fs).entries)

/-- The fields of an error: message, name, stack, and a cause of its own. The name
is that of the error unless it has a property for it. -/
def captureError (capture : Value → Counting Captured) (g : Getters) (h : Heap)
    (limits : CaptureLimits) (name : String) (id : ObjectId) : Counting Captured := do
  let own := fun (key : String) => h.ownProperty? id (.string key)
  let captureOwn := fun (key : String) =>
    captureProperty capture g h (.object id) (own key)
  let message ← captureOwn "message"
  let nameField ←
    if (own "name").isNone then pure (captureText limits name) else captureOwn "name"
  let stack ← captureOwn "stack"
  let cause ←
    if (own "cause").isNone then pure []
    else do
      let c ← captureOwn "cause"
      pure [("cause", c)]
  return .whole name
    (.fields ([("message", message), ("name", nameField), ("stack", stack)] ++ cause))

/-- The elements of a sequence, the first ones that the limit keeps. -/
def captureElements (capture : Value → Counting Captured) (limits : CaptureLimits)
    (type : String) (xs : List Value) : Counting Captured := do
  let cs ← (xs.take limits.maxCollectionSize).mapM capture
  return limited limits.maxCollectionSize xs.length .collectionSize type (.elements cs)

/-- The entries of a map, the first ones that the limit keeps. -/
def captureEntries (capture : Value → Counting Captured) (limits : CaptureLimits)
    (es : List (Value × Value)) : Counting Captured := do
  let cs ← (es.take limits.maxCollectionSize).mapM fun e => do
    let k ← capture e.1
    let v ← capture e.2
    return (k, v)
  return limited limits.maxCollectionSize es.length .collectionSize "Map" (.entries cs)

/-- What a value is captured as whatever its depth, if that can be said. -/
def captureLeaf? (limits : CaptureLimits) : Kind → Option Captured
  | .null => some (.whole "null" .null)
  | .undefined => some (.whole "undefined" .empty)
  | .bool b => some (.primitive "boolean" (Value.boolText b))
  | .number x => some (.primitive "number" (Number.format x))
  | .bigint n => some (.primitive "bigint" (Value.bigintText n))
  | .symbol s => some (.primitive "symbol" s.text)
  | .string s => some (captureText limits s)
  | .classFunction _ => some (.whole "class" .empty)
  | .date (some t) => some (.primitive "Date" t.text)
  | .date none => some (.primitive "Date" "Invalid Date")
  | .regexp r => some (.primitive "RegExp" r.text)
  | .promise => some (.missing "Promise" .unintrospectable)
  | .weakMap _ => some (.missing "WeakMap" .unintrospectable)
  | .weakSet _ => some (.missing "WeakSet" .unintrospectable)
  | .buffer name n => some (.mk name .empty false (some n) (some .unsupported))
  | _ => none

/-- The parts of an object by a capture of values. -/
def captureParts (capture : Value → Counting Captured) (g : Getters) (h : Heap)
    (limits : CaptureLimits) (id : ObjectId) : Kind → Counting Captured
  | .error name => captureError capture g h limits name id
  | .array xs => captureElements capture limits "Array" xs
  | .typedArray t xs => captureElements capture limits t.arrayName xs
  | .set xs => captureElements capture limits "Set" xs
  | .map es => captureEntries capture limits es
  | _ => captureFields capture g h limits id

/-- Captures a value with so many levels remaining. -/
def captureWithin (g : Getters) (h : Heap) (limits : CaptureLimits) :
    Nat → Value → Counting Captured
  | levels, v =>
    match captureLeaf? limits (h.kind v) with
    | some c => return c
    | none =>
      match v with
      | .object id =>
        match levels with
        | 0 => return .missing (h.constructorName id) .depth
        | n + 1 => captureParts (captureWithin g h limits n) g h limits id (h.kind v)
      | _ => return .whole "Object" .empty

/-- Captures a value. -/
def capture (g : Getters) (h : Heap) (limits : CaptureLimits) (v : Value) : Counting Captured :=
  captureWithin g h limits limits.maxReferenceDepth v

/-- Captures named values, each by itself. -/
def captureAll (g : Getters) (h : Heap) (limits : CaptureLimits) (vs : List (String × Value)) :
    Counting (OrderedTable String Captured) := do
  let cs ← vs.mapM fun v => do return (v.1, ← capture g h limits v.2)
  return OrderedTable.ofList cs

end Capture

end ProbeEngine
