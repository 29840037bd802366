import ProbeEngine.Host.Value

/-!
# The heap

The objects of an instrumented program, each at its place. Objects are added and
their properties and prototypes written; nothing is ever removed. A prototype is
refused if its own chain holds the object, so that chains end.
-/

namespace ProbeEngine.Host

/-- The objects by their places, and how many symbols were created. -/
structure Heap where
  objects : Array HostObject := #[]
  symbols : Nat := 0

namespace Heap

/-- The heap without objects. -/
def empty : Heap := {}

/-- The object at a place; an empty one where there is none. -/
def object (h : Heap) (id : ObjectId) : HostObject := h.objects.getD id.index default

/-- The heap with one more object, and its place. -/
def allocate (h : Heap) (o : HostObject) : ObjectId × Heap :=
  (⟨h.objects.size⟩, { h with objects := h.objects.push o })

/-- The heap with one more object of a kind, and its place. -/
def allocateKind (h : Heap) (kind : ObjectKind) : ObjectId × Heap := h.allocate { kind := kind }

/-- The heap with one more symbol, and that symbol. -/
def newSymbol (h : Heap) (description : Option String) : Symbol × Heap :=
  (.unique h.symbols description, { h with symbols := h.symbols + 1 })

/-- The heap with an object changed. -/
def modify (h : Heap) (id : ObjectId) (f : HostObject → HostObject) : Heap :=
  { h with objects := h.objects.modify id.index f }

/-! ## Own properties -/

/-- Writes an own property; one of the same key is replaced. -/
def define (h : Heap) (id : ObjectId) (key : PropertyKey) (p : Property) : Heap :=
  h.modify id fun o => { o with properties := o.properties.put key p }

/-- Writes an own data property. -/
def setData (h : Heap) (id : ObjectId) (key : PropertyKey) (v : Value) : Heap :=
  h.define id key (.data v)

/-- Writes own data properties in order. -/
def setAll (h : Heap) (id : ObjectId) (ps : List (String × Value)) : Heap :=
  ps.foldl (fun h p => h.setData id (.string p.1) p.2) h

/-- The own property of a key. -/
def ownProperty? (h : Heap) (id : ObjectId) (key : PropertyKey) : Option Property :=
  (h.object id).properties.get? key

/-- The keys of the own properties, in the order of their first writing. -/
def ownKeys (h : Heap) (id : ObjectId) : List PropertyKey := (h.object id).properties.keys

/-- The own properties whose keys are texts, in the same order. -/
def ownStringProperties (h : Heap) (id : ObjectId) : List (String × Property) :=
  (h.object id).properties.entries.filterMap fun e => e.1.string?.map fun s => (s, e.2)

/-- How many own keys are texts. -/
def ownStringKeyCount (h : Heap) (id : ObjectId) : Nat :=
  ((h.ownKeys id).filter fun k => k.string?.isSome).length

/-! ## Prototype chains -/

/-- The objects from a place on along the prototypes, at most so many. -/
def chainWithin (h : Heap) : Nat → Option ObjectId → List ObjectId
  | 0, _ => []
  | _ + 1, none => []
  | n + 1, some id => id :: h.chainWithin n (h.object id).prototype

/-- The objects from a place on along the prototypes. A chain that does not
repeat has no more objects than the heap. -/
def chain (h : Heap) (start : Option ObjectId) : List ObjectId :=
  h.chainWithin h.objects.size start

/-- The property of a key on the nearest object that has one, from an object on
along its prototypes. -/
def findProperty? (h : Heap) (id : ObjectId) (key : PropertyKey) : Option Property :=
  (h.chain (some id)).findSome? fun o => h.ownProperty? o key

/-- Replaces the prototype of an object; nothing if that would close a cycle. -/
def setPrototype? (h : Heap) (id : ObjectId) (prototype : Option ObjectId) : Option Heap :=
  if (h.chain prototype).contains id then none
  else some (h.modify id fun o => { o with prototype := prototype })

/-- The data property of a key that a value has, itself or by its prototypes. -/
def dataProperty? (h : Heap) (v : Value) (key : String) : Option Value :=
  match v with
  | .object id => (h.findProperty? id (.string key)).bind Property.data?
  | _ => none

end Heap

end ProbeEngine.Host
