import ProbeEngine.Capture.Limits
import ProbeEngine.Host.Conversion
import ProbeEngine.Text.Quoted
import ProbeEngine.Text.Search

/-!
# Rendering values

The text of a value in a message. The members of the value are shown, and those
of objects inside it are not: such an object is a tag with its type. Nothing is
run for it, so an accessor is a tag too.
-/

namespace ProbeEngine

namespace Inspect

open Host (Value Heap Kind PropertyKey Property ObjectId)
open Text (joinWith firstChars charCount)

/-! ## Parts -/

/-- A key that needs no quotes: letters of ASCII, digits but not first, `_` and
`$`. -/
def isPlainKey (s : String) : Bool :=
  let start := fun c => Unicode.isAsciiLetter c || c == '_' || c == '$'
  match s.toList with
  | [] => false
  | c :: cs => start c && cs.all fun d => start d || Unicode.isAsciiDigit d

/-- The text of a key. -/
def renderKey : PropertyKey → String
  | .string s => if isPlainKey s then s else Text.Quoted.quote s
  | .symbol s => "[" ++ s.text ++ "]"

/-- A text between quotes, cut after so many characters. -/
def renderText (limits : CaptureLimits) (s : String) : String :=
  let n := charCount s
  if n ≤ limits.maxLength then Text.Quoted.quote s
  else
    Text.Quoted.quote (firstChars limits.maxLength s) ++ "... " ++
      toString (n - limits.maxLength) ++ " more characters"

/-- A named thing as a tag, with a word for one that has no name. -/
def renderFunction (word separator name : String) : String :=
  if name = "" then "[" ++ word ++ " (anonymous)]" else "[" ++ word ++ separator ++ name ++ "]"

/-- The first of some items, and a note on how many there are more. -/
def withRemainder (limit : Nat) (word : String) (items : List String) : List String :=
  items.take limit ++
    if limit < items.length then
      ["... " ++ toString (items.length - limit) ++ " more " ++ word]
    else []

/-- Items between brackets. -/
def surround (lead start : String) (items : List String) (finish : String) : String :=
  if items.isEmpty then lead ++ start ++ finish
  else lead ++ start ++ " " ++ joinWith ", " items ++ " " ++ finish

/-! ## Values inside of others -/

/-- The text of a value inside another one. -/
def renderNested (h : Heap) (limits : CaptureLimits) (v : Value) : String :=
  match h.kind v with
  | .undefined => "undefined"
  | .null => "null"
  | .bool b => Value.boolText b
  | .number x => Number.format x
  | .bigint n => Value.bigintText n ++ "n"
  | .symbol s => s.text
  | .string s => renderText limits s
  | .function f => renderFunction "Function" ": " f.name
  | .classFunction f => renderFunction "class" " " f.name
  | .date (some t) => t.text
  | .date none => "Invalid Date"
  | .regexp r => r.text
  | .error _ => "[" ++ h.describeThrown v ++ "]"
  | .promise => "Promise \x7b <unknown> \x7d"
  | .weakMap _ => "WeakMap \x7b <items unknown> \x7d"
  | .weakSet _ => "WeakSet \x7b <items unknown> \x7d"
  | .buffer name _ => "[" ++ name ++ "]"
  | .array _ => "[Array]"
  | .typedArray t _ => "[" ++ t.arrayName ++ "]"
  | .set _ => "[Set]"
  | .map _ => "[Map]"
  | .object =>
    match v with
    | .object id => "[" ++ h.constructorName id ++ "]"
    | _ => "\x7b\x7d"

/-- The text of a property inside an object. -/
def renderProperty (h : Heap) (limits : CaptureLimits) : Property → String
  | .data v => renderNested h limits v
  | .accessor _ => "[Getter]"

/-! ## Values by themselves -/

/-- The items of a sequence between brackets. -/
def renderList (h : Heap) (limits : CaptureLimits) (lead start : String) (xs : List Value)
    (finish : String) : String :=
  surround lead start
    (withRemainder limits.maxCollectionSize "items" (xs.map (renderNested h limits))) finish

/-- The entries of a map. -/
def renderMap (h : Heap) (limits : CaptureLimits) (es : List (Value × Value)) : String :=
  surround ("Map(" ++ toString es.length ++ ") ") "\x7b"
    (withRemainder limits.maxCollectionSize "items"
      (es.map fun e => renderNested h limits e.1 ++ " => " ++ renderNested h limits e.2)) "\x7d"

/-- The own properties of an object. -/
def renderObject (h : Heap) (limits : CaptureLimits) (id : ObjectId) : String :=
  let name := h.constructorName id
  let fields := (h.object id).properties.entries.map fun e =>
    renderKey e.1 ++ ": " ++ renderProperty h limits e.2
  surround (if name = "Object" then "" else name ++ " ") "\x7b"
    (withRemainder limits.maxFieldCount "properties" fields) "\x7d"

/-- An error by its stack, or by its name and message if it has no such text. -/
def renderError (h : Heap) (v : Value) : String :=
  match h.dataProperty? v "stack" with
  | some (.string stack) => stack
  | _ => h.describeThrown v

end Inspect

/-- The text of a value in a message. -/
def inspect (h : Host.Heap) (limits : CaptureLimits) (v : Host.Value) : String :=
  match h.kind v with
  | .error _ => Inspect.renderError h v
  | .buffer name n => name ++ " \x7b byteLength: " ++ toString n ++ " \x7d"
  | .array xs => Inspect.renderList h limits "" "[" xs "]"
  | .typedArray t xs =>
    Inspect.renderList h limits (t.arrayName ++ "(" ++ toString xs.length ++ ") ") "[" xs "]"
  | .set xs => Inspect.renderList h limits ("Set(" ++ toString xs.length ++ ") ") "\x7b" xs "\x7d"
  | .map es => Inspect.renderMap h limits es
  | .object =>
    match v with
    | .object id => Inspect.renderObject h limits id
    | _ => "\x7b\x7d"
  | _ => Inspect.renderNested h limits v

end ProbeEngine
