import ProbeEngine.Expr.Coercion
import ProbeEngine.Expr.Context
import ProbeEngine.Regex.Matching

/-!
# Collections and members

The length, the items and the members of a value, as expressions see them. Data
properties are read where they lie; a getter is refused.
-/

namespace ProbeEngine

open Host (Value Heap Symbol PropertyKey Property ObjectId Kind ElementType)

/-- The items of a collection, as loops bind them. -/
inductive Items
  | elements (xs : List Value)
  | typed (type : ElementType) (xs : List Value)
  | mapEntries (es : List (Value × Value))
  | properties (es : List (Value × Value))

namespace Collection

/-- A count as a value. -/
def countValue (n : Nat) : Value := .number (Binary64.ofNat n)

/-- The one-unit text of a UTF-16 unit. -/
def unitText (u : Nat) : Value := .string (Text.Utf16.ofUnits [u])

/-- The number of own properties with text keys of a value. -/
def ownCount (h : Heap) : Value → Nat
  | .object id => h.ownStringKeyCount id
  | _ => 0

/-- The length of a value: units of a text, items of a collection, own text keys
of any other object. -/
def length (h : Heap) (v : Value) : Except EvalError Nat :=
  match h.kind v with
  | .string s => .ok (Text.Utf16.length s)
  | .array xs => .ok xs.length
  | .set xs => .ok xs.length
  | .typedArray _ xs => .ok xs.length
  | .map es => .ok es.length
  | .weakMap _ => .error .sizeOfWeak
  | .weakSet _ => .error .sizeOfWeak
  | .undefined => .error .nullishAsObject
  | .null => .error .nullishAsObject
  | _ => .ok (ownCount h v)

/-- Own properties with text keys as entries; a getter is refused. -/
def dataEntries : List (String × Property) → Except EvalError (List (Value × Value))
  | [] => .ok []
  | (key, .data v) :: ps => (dataEntries ps).map fun es => (.string key, v) :: es
  | (_, .accessor _) :: _ => .error .getter

/-- The entries of an object that is no collection. -/
def ownEntries (h : Heap) : Value → Except EvalError (List (Value × Value))
  | .object id => dataEntries (h.ownStringProperties id)
  | _ => .ok []

/-- The units of a text with their indices, from an index on. -/
def unitEntries : Nat → List Nat → List (Value × Value)
  | _, [] => []
  | i, u :: us =>
    (.string (String.ofList (Nat.toDigits 10 i)), unitText u) :: unitEntries (i + 1) us

/-- The items of a value. -/
def items (h : Heap) (v : Value) : Except EvalError Items :=
  match h.kind v with
  | .array xs => .ok (.elements xs)
  | .set xs => .ok (.elements xs)
  | .weakSet xs => .ok (.elements xs)
  | .typedArray t xs => .ok (.typed t xs)
  | .map es => .ok (.mapEntries es)
  | .weakMap es => .ok (.mapEntries es)
  | .undefined => .error .nullishAsObject
  | .null => .error .nullishAsObject
  | .string s => .ok (.properties (unitEntries 0 (Text.Utf16.units s)))
  | _ => (ownEntries h v).map .properties

/-- Whether a collection or text contains an item. -/
def contains (h : Heap) (collection item : Value) : Except EvalError Bool :=
  match h.kind collection with
  | .string s => (Coercion.toText h item).map fun t => Text.holds s t
  | .array xs => .ok (xs.any fun x => x.sameValueZero item)
  | .set xs => .ok (xs.any fun x => x.sameValueZero item)
  | .weakSet xs => .ok (xs.any fun x => x.sameValueZero item)
  | .typedArray _ xs => .ok (xs.any fun x => x.sameValueZero item)
  | .map es => .ok (es.any fun e => e.1.sameValueZero item)
  | .weakMap es => .ok (es.any fun e => e.1.sameValueZero item)
  | _ => .error (.containsNotSupported (Coercion.typeWord h collection))

/-! ## Substrings -/

/-- An offset into a text of so many units: cut to its whole part and to the
bounds of the text. -/
def clampOffset (h : Heap) (v : Value) (len : Nat) : Except EvalError Nat :=
  (Coercion.toNumber h v).map fun x =>
    if x.isNaN || x ≤ 0 then 0
    else if Binary64.ofNat len ≤ x then len
    else ((Binary64.truncate? x).getD 0).toNat

/-- The end of a substring: the end of the text if it is not given. -/
def clampEnd (h : Heap) (v : Value) (len : Nat) : Except EvalError Nat :=
  match v with
  | .undefined => .ok len
  | v => clampOffset h v len

/-- The units of a text between two offsets in either order. -/
def substring (h : Heap) (s : String) (start finish : Value) : Except EvalError String := do
  let units := Text.Utf16.units s
  let i ← clampOffset h start units.length
  let j ← clampEnd h finish units.length
  .ok (Text.Utf16.ofUnits ((units.take (max i j)).drop (min i j)))

/-! ## Members -/

/-- The index that a key writes in canonical decimal form. -/
def arrayIndex? (key : PropertyKey) : Option Nat :=
  match key with
  | .string s =>
    let cs := s.toList
    if cs.isEmpty || !cs.all Number.isDigit then none
    else
      let n := Number.decimalValue cs
      if n < UInt64.size && Nat.toDigits 10 n == cs then some n else none
  | .symbol _ => none

/-- The member of a text: its length, or one of its units. -/
def textMember (s : String) (key : PropertyKey) : Value :=
  if key = .string "length" then countValue (Text.Utf16.length s)
  else
    match (arrayIndex? key).bind fun i => (Text.Utf16.units s)[i]? with
    | some u => unitText u
    | none => .undefined

/-- The members that the host gives objects of a kind, apart from properties. -/
def builtinMember? (kind : Kind) (key : PropertyKey) : Option Value :=
  let sequenceMember := fun (xs : List Value) =>
    if key = .string "length" then some (countValue xs.length)
    else (arrayIndex? key).bind fun i => xs[i]?
  match kind with
  | .array xs => sequenceMember xs
  | .typedArray _ xs => sequenceMember xs
  | .set xs => if key = .string "size" then some (countValue xs.length) else none
  | .map es => if key = .string "size" then some (countValue es.length) else none
  | .function f => if key = .string "name" then some (.string f.name) else none
  | .classFunction f => if key = .string "name" then some (.string f.name) else none
  | .error name => if key = .string "name" then some (.string name) else none
  | .regexp r =>
    if key = .string "source" then some (.string r.source)
    else if key = .string "flags" then some (.string r.flags)
    else none
  | .buffer _ n => if key = .string "byteLength" then some (countValue n) else none
  | _ => none

/-- The value of the first entry whose key is the same, undefined if none is. -/
def mapValue (es : List (Value × Value)) (key : Value) : Value :=
  match es.find? fun e => e.1.sameValueZero key with
  | some e => e.2
  | none => .undefined

/-- The member of an object: a property of it or of its prototypes, or else one
that its kind has. A getter is refused. -/
def objectMember (h : Heap) (target : Value) (key : PropertyKey) : Except EvalError Value :=
  match target with
  | .object id =>
    match h.findProperty? id key with
    | some (.data v) => .ok v
    | some (.accessor _) => .error .getter
    | none => .ok ((builtinMember? (h.kind target) key).getD .undefined)
  | _ => .ok .undefined

/-- Reads a member of a value. Entries of a map are read by index alone. -/
def member (h : Heap) (target key : Value) (ofMap : Bool) : Except EvalError Value :=
  match h.kind target with
  | .undefined => (Coercion.toKey h key).bind fun k => .error (.readOfNullish "undefined" k.text)
  | .null => (Coercion.toKey h key).bind fun k => .error (.readOfNullish "null" k.text)
  | .map es => if ofMap then .ok (mapValue es key) else .error .readOfMap
  | .weakMap es => if ofMap then .ok (mapValue es key) else .error .readOfMap
  | .string s => (Coercion.toKey h key).map (textMember s)
  | .bool _ => .ok .undefined
  | .number _ => .ok .undefined
  | .bigint _ => .ok .undefined
  | .symbol _ => .ok .undefined
  | _ => (Coercion.toKey h key).bind (objectMember h target)

/-! ## Types and patterns -/

/-- Whether a value is of a type. A constructor is one that is bound, or one that
the host has. -/
def instanceOf (h : Heap) (context : Context) (v : Value) (type : TypeName) :
    Except EvalError Bool :=
  match type with
  | .primitive word => .ok (h.typeOf v == word)
  | .constructor name =>
    match context.get? name with
    | some (.object c) =>
      if (h.function? c).isSome then
        .ok (match v with
          | .object id => h.inheritsFrom id c
          | _ => false)
      else .error .notCallable
    | some _ => .error .notCallable
    | none =>
      match v with
      | .object id =>
        match (h.object id).kind.builtinInstance? name with
        | some b => .ok b
        | none => .error (.notDefined name)
      | _ =>
        if Host.isBuiltinConstructor name then .ok false else .error (.notDefined name)

/-- Whether a text matches a value: a text that is a pattern, or a regular
expression. -/
def matchesValue (h : Heap) (s : String) (pattern : Value) : Except EvalError Bool :=
  match h.kind pattern with
  | .string source =>
    match Regex.pattern? source with
    | some p => .ok (p.occursIn s)
    | none => .error (.invalidPattern source)
  | .regexp r => .ok (r.isMatch s)
  | _ => .error .notPattern

end Collection

end ProbeEngine
