import ProbeEngine.Host.Heap
import ProbeEngine.Unicode.Classes
import ProbeEngine.Text.Blank
import ProbeEngine.Regex.Reader
import ProbeEngine.Regex.Matching

/-!
# Making objects

Functions, classes, their instances, errors and regular expressions, and the
questions about the class of an object.
-/

namespace ProbeEngine.Host

/-- Whether a source text declares a class: after blanks the word `class`, which
no further letter of a word follows. -/
def FunctionInfo.isClass (f : FunctionInfo) : Bool :=
  match Text.trimStart f.source.toList with
  | 'c' :: 'l' :: 'a' :: 's' :: 's' :: rest =>
    match rest with
    | [] => true
    | c :: _ => !Unicode.isWord c
  | _ => false

/-- The regular expression of a source and flags, if the source is a pattern. Of
the flags, `i`, `m` and `s` change what it matches. -/
def RegExp.ofSource? (source flags : String) : Option RegExp :=
  let has := fun c => flags.toList.contains c
  (Regex.patternWith?
    { ignoreCase := has 'i', multiLine := has 'm', dotAll := has 's' } source).map
    fun p => ⟨source, flags, p⟩

/-- Whether a regular expression matches somewhere in a text. -/
def RegExp.isMatch (r : RegExp) (s : String) : Bool := r.pattern.occursIn s

namespace Heap

/-- The name and source of a function. -/
def function? (h : Heap) (id : ObjectId) : Option FunctionInfo :=
  match (h.object id).kind with
  | .function f => some f
  | _ => none

/-- The object in the own data property `prototype`. -/
def instancePrototype? (h : Heap) (id : ObjectId) : Option ObjectId :=
  match h.ownProperty? id (.string "prototype") with
  | some (.data (.object p)) => some p
  | _ => none

/-- Makes a function. -/
def newFunction (h : Heap) (name source : String) : ObjectId × Heap :=
  h.allocateKind (.function ⟨name, source⟩)

/-- Makes a class, extending another one or not. Instances are known by the
object in its property `prototype`, which carries the name of the class and
inherits from that of the parent. -/
def newClass (h : Heap) (name : String) (parent : Option ObjectId) : ObjectId × Heap :=
  let source :=
    match parent.bind h.function? with
    | some f => "class " ++ name ++ " extends " ++ f.name ++ " \x7b\x7d"
    | none => "class " ++ name ++ " \x7b\x7d"
  let (p, h₁) := h.allocate
    { kind := .ordinary, prototype := parent.bind h.instancePrototype?, className := some name }
  let (c, h₂) := h₁.newFunction name source
  (c, h₂.setData c (.string "prototype") (.object p))

/-- Makes an instance of a class or function; a plain object if that has no
object in its property `prototype`. -/
def construct (h : Heap) (class? : ObjectId) : ObjectId × Heap :=
  h.allocate { kind := .ordinary, prototype := h.instancePrototype? class? }

/-- Makes an error, whose stack is its name and message. -/
def newError (h : Heap) (name message : String) : ObjectId × Heap :=
  let (e, h₁) := h.allocateKind (.error name)
  (e, (h₁.setData e (.string "message") (.string message)).setData e (.string "stack")
    (.string (name ++ ": " ++ message)))

/-! ## Questions about classes -/

/-- Whether the object in the property `prototype` of a constructor is on the
chain of an object. -/
def inheritsFrom (h : Heap) (id constructor : ObjectId) : Bool :=
  match h.instancePrototype? constructor with
  | some target => (h.chain (h.object id).prototype).contains target
  | none => false

/-- The names of the classes on the chain of an object, nearest first. -/
def classNames (h : Heap) (id : ObjectId) : List String :=
  (h.chain (h.object id).prototype).filterMap fun p => (h.object p).className

end Heap

/-- The constructor of a kind of object. -/
def ObjectKind.builtinName : ObjectKind → String
  | .ordinary => "Object"
  | .array _ => "Array"
  | .function _ => "Function"
  | .error _ => "Error"
  | .date _ => "Date"
  | .regexp _ => "RegExp"
  | .map _ => "Map"
  | .set _ => "Set"
  | .weakMap _ => "WeakMap"
  | .weakSet _ => "WeakSet"
  | .promise => "Promise"
  | .typedArray _ _ => "TypedArray"
  | .arrayBuffer _ => "ArrayBuffer"
  | .dataView _ => "DataView"

/-- The constructors of errors that are known by the name of the error. -/
def errorConstructors : List String :=
  ["TypeError", "RangeError", "ReferenceError", "SyntaxError", "EvalError", "URIError",
   "AggregateError"]

/-- The constructors of objects that are known by their kind. -/
def kindConstructors : List String :=
  ["Array", "Date", "RegExp", "Map", "Set", "WeakMap", "WeakSet", "Promise", "ArrayBuffer",
   "DataView"]

/-- Whether an object of a kind is an instance of a builtin constructor; nothing
for names that are none. -/
def ObjectKind.builtinInstance? (kind : ObjectKind) (name : String) : Option Bool :=
  if name = "Object" then some true
  else if name = "Function" then some (match kind with | .function _ => true | _ => false)
  else if name = "Error" then some (match kind with | .error _ => true | _ => false)
  else if errorConstructors.contains name then
    some (match kind with | .error n => n == name | _ => false)
  else if kindConstructors.contains name then some (kind.builtinName == name)
  else
    (ElementType.ofArrayName? name).map fun expected =>
      match kind with
      | .typedArray t _ => t == expected
      | _ => false

/-- Whether a name is that of a builtin constructor. -/
def isBuiltinConstructor (name : String) : Bool :=
  (ObjectKind.ordinary.builtinInstance? name).isSome

/-- The name of the constructor of an object: for a plain object its class, if it
has one. -/
def Heap.constructorName (h : Heap) (id : ObjectId) : String :=
  match (h.object id).kind with
  | .ordinary => (h.classNames id).head?.getD "Object"
  | .error name => name
  | .typedArray t _ => t.arrayName
  | kind => kind.builtinName

end ProbeEngine.Host
