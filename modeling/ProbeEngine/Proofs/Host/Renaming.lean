import ProbeEngine.Proofs.Host.Building

/-!
# Heaps up to the places of objects

Where there are other objects besides, the same steps make the same objects at other places.
A heap `Renames` another one if each object of it stands at a renamed place there, and refers
to renamed places. What is read of the two is the same up to the renaming: kinds and
properties (`kind_rename`, `findProperty?_rename`), classes (`inheritsFrom_rename`,
`constructorName_rename`), and the words for values (`display_rename`,
`describeThrown_rename`), in which no place is written. Both may make an object more
(`Renames.allocateKind`, `Renames.allocateRecord`).
-/

namespace ProbeEngine.Host

section

variable (ρ : ObjectId → ObjectId)

/-! ## Renamed values and objects -/

/-- A value with its place renamed, if it is an object. -/
def Value.rename : Value → Value
  | .object id => .object (ρ id)
  | v => v

/-- A property with its value renamed, if it holds one. -/
def Property.rename : Property → Property
  | .data v => .data (v.rename ρ)
  | .accessor getter => .accessor getter

/-- An entry with its key and value renamed. -/
def renameEntry (e : Value × Value) : Value × Value := (e.1.rename ρ, e.2.rename ρ)

/-- A kind of objects with the values that it holds renamed. -/
def ObjectKind.rename : ObjectKind → ObjectKind
  | .array xs => .array (xs.map (Value.rename ρ))
  | .map es => .map (es.map (renameEntry ρ))
  | .set xs => .set (xs.map (Value.rename ρ))
  | .weakMap es => .weakMap (es.map (renameEntry ρ))
  | .weakSet xs => .weakSet (xs.map (Value.rename ρ))
  | .typedArray t xs => .typedArray t (xs.map (Value.rename ρ))
  | kind => kind

/-- What a value is, with the values that this tells renamed. -/
def Kind.rename : Kind → Kind
  | .array xs => .array (xs.map (Value.rename ρ))
  | .map es => .map (es.map (renameEntry ρ))
  | .set xs => .set (xs.map (Value.rename ρ))
  | .weakMap es => .weakMap (es.map (renameEntry ρ))
  | .weakSet xs => .weakSet (xs.map (Value.rename ρ))
  | .typedArray t xs => .typedArray t (xs.map (Value.rename ρ))
  | kind => kind

/-- An object with all that it refers to renamed. -/
def HostObject.rename (o : HostObject) : HostObject where
  kind := o.kind.rename ρ
  properties := ⟨o.properties.entries.map fun e => (e.1, e.2.rename ρ)⟩
  prototype := o.prototype.map ρ
  className := o.className

end

variable {ρ : ObjectId → ObjectId}

theorem ObjectKind.kind_rename (kind : ObjectKind) :
    (kind.rename ρ).kind = kind.kind.rename ρ := by
  cases kind with
  | function f =>
    simp only [ObjectKind.rename, ObjectKind.kind]
    split <;> rfl
  | _ => rfl

theorem Property.data?_rename (p : Property) :
    (p.rename ρ).data? = p.data?.map (Value.rename ρ) := by
  cases p <;> rfl

theorem HostObject.rename_default : (default : HostObject).rename ρ = default := rfl

namespace Value

theorem isTruthy_rename (v : Value) : (v.rename ρ).isTruthy = v.isTruthy := by
  cases v <;> rfl

theorem isNullish_rename (v : Value) : (v.rename ρ).isNullish = v.isNullish := by
  cases v <;> rfl

theorem strictEquals_rename (hρ : Function.Injective ρ) (v w : Value) :
    (v.rename ρ).strictEquals (w.rename ρ) = v.strictEquals w := by
  cases v with
  | object id =>
    cases w with
    | object i => simp [rename, strictEquals, hρ.eq_iff]
    | _ => rfl
  | _ => cases w <;> rfl

theorem sameValueZero_rename (hρ : Function.Injective ρ) (v w : Value) :
    (v.rename ρ).sameValueZero (w.rename ρ) = v.sameValueZero w := by
  cases v with
  | number x => cases w <;> rfl
  | object id =>
    cases w with
    | object i => exact strictEquals_rename hρ (object id) (object i)
    | _ => rfl
  | _ => cases w <;> rfl

end Value

/-! ## Renamed heaps -/

namespace Heap

/-- A heap that has the objects of another one at renamed places, perhaps among more, so that
the next object has its renamed place too. -/
structure Renames (ρ : ObjectId → ObjectId) (h k : Heap) : Prop where
  orderly : h.Orderly
  injective : Function.Injective ρ
  size_le : h.objects.size ≤ k.objects.size
  object_eq : ∀ id, k.object (ρ id) = (h.object id).rename ρ
  fresh : ∀ i, ρ ⟨h.objects.size + i⟩ = ⟨k.objects.size + i⟩

/-- More steps than there are objects do not lengthen a chain. -/
theorem Orderly.chainWithin_eq {h : Heap} (hh : h.Orderly) {start : Option ObjectId}
    (hstart : ∀ id, start = some id → h.Has id) {n : Nat} (hn : h.objects.size ≤ n) :
    h.chainWithin n start = h.chain start := by
  obtain ⟨ids, hw⟩ := exists_walk hh.acyclic start
  have hlength := length_le_size hw.nodup (hw.has hh.prototypes hstart)
  rw [hw.chainWithin_eq (Nat.le_trans hlength hn), hw.chain_eq hh.prototypes hstart]

/-- No property is found where there is no object. -/
theorem findProperty?_of_not_has {h : Heap} {id : ObjectId} (hid : ¬ h.Has id)
    (key : PropertyKey) : h.findProperty? id key = none := by
  have hobject := object_of_not_has hid
  have hend : ∀ n, h.chainWithin n none = [] := fun n => by cases n <;> rfl
  rw [findProperty?, List.findSome?_eq_none_iff, chain]
  intro o ho
  cases hn : h.objects.size with
  | zero =>
    rw [hn] at ho
    cases ho
  | succ n =>
    have hnext : (h.object id).prototype = none := by
      rw [hobject]
      rfl
    rw [hn, chainWithin, hnext, hend] at ho
    have hsame : o = id := List.mem_singleton.1 ho
    rw [hsame, ownProperty?, hobject]
    rfl

namespace Renames

variable {h k : Heap} (hr : h.Renames ρ k)

include hr

/-! ## Properties -/

theorem not_has {id : ObjectId} (hid : ¬ h.Has id) : ¬ k.Has (ρ id) := by
  obtain ⟨index⟩ := id
  obtain ⟨i, rfl⟩ := Nat.exists_eq_add_of_le (Nat.not_lt.1 hid)
  rw [hr.fresh i]
  exact Nat.not_lt.2 (Nat.le_add_right _ _)

theorem chainWithin_rename (n : Nat) (start : Option ObjectId) :
    k.chainWithin n (start.map ρ) = (h.chainWithin n start).map ρ := by
  induction n generalizing start with
  | zero => rfl
  | succ n ih =>
    cases start with
    | none => rfl
    | some id =>
      have hnext : (k.object (ρ id)).prototype = (h.object id).prototype.map ρ := by
        rw [hr.object_eq]
        rfl
      rw [Option.map_some, chainWithin, chainWithin, hnext, ih, List.map_cons]

theorem chain_rename {start : Option ObjectId} (hstart : ∀ id, start = some id → h.Has id) :
    k.chain (start.map ρ) = (h.chain start).map ρ := by
  rw [chain, hr.chainWithin_rename, hr.orderly.chainWithin_eq hstart hr.size_le]

theorem ownProperty?_rename (id : ObjectId) (key : PropertyKey) :
    k.ownProperty? (ρ id) key = (h.ownProperty? id key).map (Property.rename ρ) := by
  rw [ownProperty?, hr.object_eq]
  exact OrderedTable.lookup_map (fun _ => Property.rename ρ) key _

theorem findProperty?_rename (id : ObjectId) (key : PropertyKey) :
    k.findProperty? (ρ id) key = (h.findProperty? id key).map (Property.rename ρ) := by
  by_cases hid : h.Has id
  · have hchain : k.chain ((some id).map ρ) = (h.chain (some id)).map ρ :=
      hr.chain_rename fun i hi => by
        cases hi
        exact hid
    rw [Option.map_some] at hchain
    rw [findProperty?, findProperty?, hchain]
    induction h.chain (some id) with
    | nil => rfl
    | cons o os ih =>
      rw [List.map_cons, List.findSome?_cons, List.findSome?_cons, hr.ownProperty?_rename, ih]
      cases h.ownProperty? o key <;> rfl
  · rw [findProperty?_of_not_has hid, findProperty?_of_not_has (hr.not_has hid)]
    rfl

theorem ownStringProperties_rename (id : ObjectId) :
    k.ownStringProperties (ρ id) =
      (h.ownStringProperties id).map fun e => (e.1, e.2.rename ρ) := by
  rw [ownStringProperties, ownStringProperties, hr.object_eq]
  simp only [HostObject.rename, List.filterMap_map, List.map_filterMap]
  refine congrArg (fun f => List.filterMap f _) (funext fun e => ?_)
  obtain ⟨key, p⟩ := e
  cases key <;> rfl

theorem ownStringKeyCount_rename (id : ObjectId) :
    k.ownStringKeyCount (ρ id) = h.ownStringKeyCount id := by
  have hkeys : k.ownKeys (ρ id) = h.ownKeys id := by
    rw [ownKeys, hr.object_eq, ownKeys]
    simp [OrderedTable.keys, HostObject.rename]
  rw [ownStringKeyCount, ownStringKeyCount, hkeys]

theorem dataProperty?_rename (v : Value) (key : String) :
    k.dataProperty? (v.rename ρ) key = (h.dataProperty? v key).map (Value.rename ρ) := by
  cases v with
  | object id =>
    rw [Value.rename, dataProperty?, dataProperty?, hr.findProperty?_rename]
    cases h.findProperty? id (.string key) with
    | none => rfl
    | some p => exact p.data?_rename
  | _ => rfl

/-! ## Kinds and classes -/

theorem kind_object_rename (id : ObjectId) :
    (k.object (ρ id)).kind = (h.object id).kind.rename ρ := by
  rw [hr.object_eq]
  rfl

theorem kind_rename (v : Value) : k.kind (v.rename ρ) = (h.kind v).rename ρ := by
  cases v with
  | object id => rw [Value.rename, kind, kind, hr.kind_object_rename, ObjectKind.kind_rename]
  | _ => rfl

theorem typeOf_rename (v : Value) : k.typeOf (v.rename ρ) = h.typeOf v := by
  cases v with
  | object id =>
    rw [Value.rename, typeOf, typeOf, hr.kind_object_rename]
    cases (h.object id).kind <;> rfl
  | _ => rfl

theorem function?_rename (id : ObjectId) : k.function? (ρ id) = h.function? id := by
  rw [function?, function?, hr.kind_object_rename]
  cases (h.object id).kind <;> rfl

theorem instancePrototype?_rename (id : ObjectId) :
    k.instancePrototype? (ρ id) = (h.instancePrototype? id).map ρ := by
  rw [instancePrototype?, instancePrototype?, hr.ownProperty?_rename]
  cases h.ownProperty? id (.string "prototype") with
  | none => rfl
  | some p =>
    cases p with
    | data v => cases v <;> rfl
    | accessor getter => rfl

/-- The prototypes of an object, the nearest one first. -/
theorem prototypes_rename (id : ObjectId) :
    k.chain (k.object (ρ id)).prototype = (h.chain (h.object id).prototype).map ρ := by
  rw [hr.object_eq]
  exact hr.chain_rename (hr.orderly.prototypes id)

theorem inheritsFrom_rename (id constructor : ObjectId) :
    k.inheritsFrom (ρ id) (ρ constructor) = h.inheritsFrom id constructor := by
  rw [inheritsFrom, inheritsFrom, hr.instancePrototype?_rename, hr.prototypes_rename]
  cases h.instancePrototype? constructor with
  | none => rfl
  | some target =>
    show ((h.chain (h.object id).prototype).map ρ).contains (ρ target) =
      (h.chain (h.object id).prototype).contains target
    rw [Bool.eq_iff_iff, List.contains_iff_mem, List.contains_iff_mem]
    exact List.mem_map_of_injective hr.injective

theorem constructorName_rename (id : ObjectId) :
    k.constructorName (ρ id) = h.constructorName id := by
  have hnames : k.classNames (ρ id) = h.classNames id := by
    rw [classNames, classNames, hr.prototypes_rename, List.filterMap_map]
    refine congrArg (fun f => List.filterMap f _) (funext fun p => ?_)
    show (k.object (ρ p)).className = (h.object p).className
    rw [hr.object_eq]
    rfl
  rw [constructorName, constructorName, hnames, hr.kind_object_rename]
  cases (h.object id).kind <;> rfl

/-! ## Words for values -/

theorem display_rename (v : Value) : k.display (v.rename ρ) = h.display v := by
  cases v with
  | object id =>
    exact congrArg (fun name => "[object " ++ name ++ "]") (hr.constructorName_rename id)
  | _ => rfl

theorem messageText_rename (v : Value) : k.messageText (v.rename ρ) = h.messageText v := by
  rw [messageText, messageText, hr.dataProperty?_rename, Option.map_map]
  exact congrArg (fun f => (Option.map f _).getD "") (funext hr.display_rename)

theorem describeThrown_rename (v : Value) :
    k.describeThrown (v.rename ρ) = h.describeThrown v := by
  rw [describeThrown, describeThrown, hr.kind_rename, hr.messageText_rename, hr.display_rename]
  cases h.kind v <;> rfl

/-! ## One object more -/

theorem place_rename : ρ ⟨h.objects.size⟩ = ⟨k.objects.size⟩ := hr.fresh 0

/-- Both heaps may make an object, if what it refers to is there. -/
theorem allocate {o : HostObject} (ho : (h.allocate o).2.Orderly) :
    (h.allocate o).2.Renames ρ (k.allocate (o.rename ρ)).2 where
  orderly := ho
  injective := hr.injective
  size_le := by
    rw [size_allocate, size_allocate]
    exact Nat.succ_le_succ hr.size_le
  object_eq id := by
    rw [object_allocate, object_allocate]
    by_cases hid : id.index = h.objects.size
    · have hplace : ρ id = ⟨k.objects.size⟩ := by
        rw [← hr.place_rename, ← hid]
      rw [if_pos hid, if_pos (congrArg ObjectId.index hplace)]
    · have hplace : (ρ id).index ≠ k.objects.size := fun hc => hid <|
        congrArg ObjectId.index <| hr.injective <|
          (congrArg ObjectId.mk hc : ρ id = ⟨k.objects.size⟩).trans hr.place_rename.symm
      rw [if_neg hid, if_neg hplace, hr.object_eq]
  fresh i := by
    rw [size_allocate, size_allocate, Nat.add_assoc, Nat.add_assoc, hr.fresh]

end Renames

/-! ## Records -/

theorem rename_record (ps : List (String × Value)) :
    (record ps).rename ρ = record (ps.map fun p => (p.1, p.2.rename ρ)) := by
  have hentries := OrderedTable.entries_ofList_map (κ := PropertyKey) Function.injective_id
    (Property.rename ρ) (dataProperties ps)
  simp only [record, HostObject.rename, ObjectKind.rename, Option.map_none, HostObject.mk.injEq,
    and_true, true_and]
  refine congrArg OrderedTable.mk (hentries.symm.trans ?_)
  simp only [dataProperties, List.map_map]
  rfl

namespace Renames

variable {h k : Heap} (hr : h.Renames ρ k)

include hr

/-- Both heaps may make an object of a kind that holds what is there. -/
theorem allocateKind {kind : ObjectKind} (hkind : ∀ v ∈ kind.contents, h.HasValue v) :
    (h.allocateKind kind).2.Renames ρ (k.allocateKind (kind.rename ρ)).2 :=
  hr.allocate (hr.orderly.allocate rfl (by simp) hkind)

/-- Both heaps may make a plain object with properties that hold what is there. -/
theorem allocateRecord {ps : List (String × Value)} (hps : ∀ p ∈ ps, h.HasValue p.2) :
    ((h.allocateKind .ordinary).2.setAll ⟨h.objects.size⟩ ps).Renames ρ
      ((k.allocateKind .ordinary).2.setAll ⟨k.objects.size⟩
        (ps.map fun p => (p.1, p.2.rename ρ))) := by
  have horderly : ((h.allocateKind .ordinary).2.setAll ⟨h.objects.size⟩ ps).Orderly :=
    (hr.orderly.allocate rfl (by simp) (by simp [ObjectKind.contents])).setAll _
      fun p hp => (hps p hp).allocate _
  rw [setAll_allocateKind] at horderly
  rw [setAll_allocateKind, setAll_allocateKind, ← rename_record]
  exact hr.allocate horderly

end Renames

end Heap

end ProbeEngine.Host
