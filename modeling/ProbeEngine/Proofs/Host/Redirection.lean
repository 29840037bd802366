import ProbeEngine.Host.Conversion
import ProbeEngine.Proofs.OrderedTable

/-!
# Heaps with other getters

A redirection puts another function behind each accessor property of a heap, and
changes nothing else. What is read of a heap without running a getter is the same
after it: the kinds of values, their classes, their data properties, and the words
for them (`kind_redirect` to `describeThrown_redirect`). Only the accessor
properties themselves differ, and where one is found another one is
(`findProperty?_redirect`).

Objects that are added hold no accessor, so adding them and redirecting may be
done in either order (`redirect_allocateKind`, `redirect_setAll`).
-/

namespace ProbeEngine.Host

/-- Another function for each accessor, by the object and the key it belongs to. -/
abbrev Redirection := ObjectId → PropertyKey → Nat → Nat

/-- A property with another function behind it, if it is an accessor. -/
def Property.redirect (f : Nat → Nat) : Property → Property
  | .data v => .data v
  | .accessor getter => .accessor (f getter)

/-- An object whose accessors have other functions. -/
def HostObject.redirect (ρ : PropertyKey → Nat → Nat) (o : HostObject) : HostObject :=
  { o with properties := ⟨o.properties.entries.map fun e => (e.1, e.2.redirect (ρ e.1))⟩ }

/-- A heap whose accessors have other functions. -/
def Heap.redirect (ρ : Redirection) (h : Heap) : Heap :=
  { h with objects := h.objects.mapIdx fun i o => o.redirect (ρ ⟨i⟩) }

@[simp] theorem Property.data?_redirect (f : Nat → Nat) (p : Property) :
    (p.redirect f).data? = p.data? := by
  cases p <;> rfl

namespace Heap

variable (ρ : Redirection) (h : Heap)

/-! ## Objects and chains -/

@[simp] theorem object_redirect (id : ObjectId) :
    (h.redirect ρ).object id = (h.object id).redirect (ρ id) := by
  simp only [object, redirect, Array.getD_eq_getD_getElem?, Array.getElem?_mapIdx]
  cases h.objects[id.index]? <;> rfl

@[simp] theorem kind_object_redirect (id : ObjectId) :
    ((h.redirect ρ).object id).kind = (h.object id).kind := by
  rw [object_redirect]
  rfl

@[simp] theorem chainWithin_redirect (n : Nat) (start : Option ObjectId) :
    (h.redirect ρ).chainWithin n start = h.chainWithin n start := by
  induction n generalizing start with
  | zero => rfl
  | succ n ih =>
    cases start with
    | none => rfl
    | some id =>
      have hnext : ((h.redirect ρ).object id).prototype = (h.object id).prototype := by
        rw [object_redirect]
        rfl
      rw [chainWithin, chainWithin, hnext, ih]

@[simp] theorem chain_redirect (start : Option ObjectId) :
    (h.redirect ρ).chain start = h.chain start := by
  have hsize : (h.redirect ρ).objects.size = h.objects.size := Array.size_mapIdx
  rw [chain, chain, hsize, chainWithin_redirect]

/-! ## Properties -/

@[simp] theorem ownProperty?_redirect (id : ObjectId) (k : PropertyKey) :
    (h.redirect ρ).ownProperty? id k =
      (h.ownProperty? id k).map (Property.redirect (ρ id k)) := by
  rw [ownProperty?, object_redirect]
  exact OrderedTable.lookup_map (fun k => Property.redirect (ρ id k)) k _

/-- Where a property is found another one of its sort is. -/
theorem findProperty?_redirect (id : ObjectId) (k : PropertyKey) :
    ∃ f, (h.redirect ρ).findProperty? id k =
      (h.findProperty? id k).map (Property.redirect f) := by
  simp only [findProperty?, chain_redirect, ownProperty?_redirect]
  induction h.chain (some id) with
  | nil => exact ⟨fun n => n, rfl⟩
  | cons o os ih =>
    cases ho : h.ownProperty? o k with
    | none => simpa [List.findSome?_cons, ho] using ih
    | some p => exact ⟨ρ o k, by simp [ho]⟩

@[simp] theorem isSome_findProperty?_redirect (id : ObjectId) (k : PropertyKey) :
    ((h.redirect ρ).findProperty? id k).isSome = (h.findProperty? id k).isSome := by
  obtain ⟨f, hf⟩ := findProperty?_redirect ρ h id k
  rw [hf, Option.isSome_map]

@[simp] theorem dataProperty?_redirect (v : Value) (key : String) :
    (h.redirect ρ).dataProperty? v key = h.dataProperty? v key := by
  cases v with
  | object id =>
    obtain ⟨f, hf⟩ := findProperty?_redirect ρ h id (.string key)
    simp only [dataProperty?, hf]
    cases h.findProperty? id (.string key) with
    | none => rfl
    | some p => exact Property.data?_redirect f p
  | _ => rfl

theorem ownStringProperties_redirect (id : ObjectId) :
    (h.redirect ρ).ownStringProperties id =
      (h.ownStringProperties id).map fun e => (e.1, e.2.redirect (ρ id (.string e.1))) := by
  rw [ownStringProperties, ownStringProperties, object_redirect]
  simp only [HostObject.redirect, List.filterMap_map, List.map_filterMap]
  refine congrArg (fun f => List.filterMap f _) (funext fun e => ?_)
  obtain ⟨k, p⟩ := e
  cases k <;> rfl

@[simp] theorem ownStringKeyCount_redirect (id : ObjectId) :
    (h.redirect ρ).ownStringKeyCount id = h.ownStringKeyCount id := by
  have hkeys : (h.redirect ρ).ownKeys id = h.ownKeys id := by
    simp [ownKeys, OrderedTable.keys, HostObject.redirect]
  rw [ownStringKeyCount, ownStringKeyCount, hkeys]

/-! ## Kinds and classes -/

@[simp] theorem kind_redirect (v : Value) : (h.redirect ρ).kind v = h.kind v := by
  cases v with
  | object id => simp only [kind, kind_object_redirect]
  | _ => rfl

@[simp] theorem typeOf_redirect (v : Value) : (h.redirect ρ).typeOf v = h.typeOf v := by
  cases v with
  | object id => simp only [typeOf, kind_object_redirect]
  | _ => rfl

@[simp] theorem function?_redirect (id : ObjectId) :
    (h.redirect ρ).function? id = h.function? id := by
  simp only [function?, kind_object_redirect]

@[simp] theorem instancePrototype?_redirect (id : ObjectId) :
    (h.redirect ρ).instancePrototype? id = h.instancePrototype? id := by
  rw [instancePrototype?, instancePrototype?, ownProperty?_redirect]
  cases h.ownProperty? id (.string "prototype") with
  | none => rfl
  | some p => cases p <;> rfl

@[simp] theorem inheritsFrom_redirect (id constructor : ObjectId) :
    (h.redirect ρ).inheritsFrom id constructor = h.inheritsFrom id constructor := by
  simp only [inheritsFrom, instancePrototype?_redirect, object_redirect, HostObject.redirect,
    chain_redirect]

@[simp] theorem constructorName_redirect (id : ObjectId) :
    (h.redirect ρ).constructorName id = h.constructorName id := by
  have hnames : (h.redirect ρ).classNames id = h.classNames id := by
    simp only [classNames, object_redirect, HostObject.redirect, chain_redirect]
  simp only [constructorName, kind_object_redirect, hnames]

/-! ## Words for values -/

@[simp] theorem display_redirect (v : Value) : (h.redirect ρ).display v = h.display v := by
  cases v with
  | object id => simp only [display, constructorName_redirect]
  | _ => rfl

theorem display_redirect_eq : (h.redirect ρ).display = h.display :=
  funext (display_redirect ρ h)

@[simp] theorem messageText_redirect (v : Value) :
    (h.redirect ρ).messageText v = h.messageText v := by
  simp only [messageText, dataProperty?_redirect, display_redirect_eq]

@[simp] theorem describeThrown_redirect (v : Value) :
    (h.redirect ρ).describeThrown v = h.describeThrown v := by
  simp only [describeThrown, kind_redirect, messageText_redirect, display_redirect]

/-! ## Additions -/

theorem redirect_allocateKind (kind : ObjectKind) :
    (h.redirect ρ).allocateKind kind =
      ((h.allocateKind kind).1, (h.allocateKind kind).2.redirect ρ) := by
  simp [allocateKind, allocate, redirect, HostObject.redirect, OrderedTable.empty,
    Array.mapIdx_push]

theorem map_putEntry_redirect (f : PropertyKey → Nat → Nat) (k : PropertyKey) (v : Value)
    (es : List (PropertyKey × Property)) :
    OrderedTable.putEntry k (.data v) (es.map fun e => (e.1, e.2.redirect (f e.1))) =
      (OrderedTable.putEntry k (.data v) es).map fun e => (e.1, e.2.redirect (f e.1)) :=
  OrderedTable.map_putEntry Function.injective_id (fun k => Property.redirect (f k)) k (.data v) es

theorem redirect_setData (id : ObjectId) (k : PropertyKey) (v : Value) :
    (h.redirect ρ).setData id k v = (h.setData id k v).redirect ρ := by
  simp only [setData, define, modify, redirect, Heap.mk.injEq, and_true]
  refine Array.ext (by simp) fun i hi _ => ?_
  by_cases hid : id.index = i
  · subst hid
    simp [Array.getElem_modify, HostObject.redirect, OrderedTable.put, map_putEntry_redirect]
  · simp [Array.getElem_modify, hid]

theorem redirect_setAll (id : ObjectId) (ps : List (String × Value)) :
    (h.redirect ρ).setAll id ps = (h.setAll id ps).redirect ρ := by
  simp only [setAll]
  induction ps generalizing h with
  | nil => rfl
  | cons p ps ih => rw [List.foldl_cons, List.foldl_cons, redirect_setData, ih]

end Heap

end ProbeEngine.Host
