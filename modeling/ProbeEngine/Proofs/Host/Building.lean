import ProbeEngine.Host.Conversion
import ProbeEngine.Proofs.Host.Chains
import ProbeEngine.Proofs.OrderedTable

/-!
# Heaps that programs build

A program builds its heap by making objects of objects that it has, and by writing
properties and prototypes (`Operation`). However it does that, the heap stays `Orderly`:

* what an object refers to is there;
* what an object holds from the beginning is older than the object (`Orderly.contents`);
  what its properties hold may be younger, so they can close cycles;
* no chain of prototypes goes on without an end (`Orderly.acyclic`): a new object is the
  prototype of no other one, and a prototype that would close a cycle is refused;
* the keys of an object are distinct.
-/

namespace ProbeEngine.Host

/-- The values that an object of a kind holds from the beginning. -/
def ObjectKind.contents : ObjectKind → List Value
  | .array xs => xs
  | .map es => es.flatMap fun e => [e.1, e.2]
  | .set xs => xs
  | .weakMap es => es.flatMap fun e => [e.1, e.2]
  | .weakSet xs => xs
  | .typedArray _ xs => xs
  | _ => []

/-- The values that a value of a kind holds. -/
def Kind.contents : Kind → List Value
  | .array xs => xs
  | .map es => es.flatMap fun e => [e.1, e.2]
  | .set xs => xs
  | .weakMap es => es.flatMap fun e => [e.1, e.2]
  | .weakSet xs => xs
  | .typedArray _ xs => xs
  | _ => []

theorem ObjectKind.contents_kind (kind : ObjectKind) : kind.kind.contents = kind.contents := by
  cases kind with
  | function f =>
    rw [ObjectKind.kind]
    split <;> rfl
  | _ => rfl

namespace Heap

/-- A step of a program that changes the heap. -/
inductive Operation
  | create (kind : ObjectKind)
  | createWithPrototype (prototype : ObjectId)
  | createError (name message : String)
  | createClass (name : String) (parent : Option ObjectId)
  | construct (class? : ObjectId)
  | createSymbol (description : Option String)
  | set (id : ObjectId) (key : PropertyKey) (v : Value)
  | defineGetter (id : ObjectId) (key : PropertyKey) (getter : Nat)
  | setPrototype (id : ObjectId) (prototype : Option ObjectId)

/-- The objects that a step is about. -/
def Operation.objects : Operation → List ObjectId
  | .create kind => kind.contents.filterMap Value.object?
  | .createWithPrototype p => [p]
  | .createError _ _ => []
  | .createClass _ parent => parent.toList
  | .construct c => [c]
  | .createSymbol _ => []
  | .set id _ v => id :: v.object?.toList
  | .defineGetter id _ _ => [id]
  | .setPrototype id p => id :: p.toList

/-- The heap after a step. A prototype that is refused changes nothing. -/
def perform (h : Heap) : Operation → Heap
  | .create kind => (h.allocateKind kind).2
  | .createWithPrototype p => (h.allocate { kind := .ordinary, prototype := some p }).2
  | .createError name message => (h.newError name message).2
  | .createClass name parent => (h.newClass name parent).2
  | .construct c => (h.construct c).2
  | .createSymbol description => (h.newSymbol description).2
  | .set id key v => h.setData id key v
  | .defineGetter id key getter => h.define id key (.accessor getter)
  | .setPrototype id p => (h.setPrototype? id p).getD h

/-- The heaps that programs build from nothing, each step about objects that there are. -/
inductive Reachable : Heap → Prop
  | empty : Reachable .empty
  | perform {h : Heap} (hr : Reachable h) (op : Operation) (hop : ∀ id ∈ op.objects, h.Has id) :
      Reachable (h.perform op)

/-- If a value is an object, it is there. -/
def HasValue (h : Heap) (v : Value) : Prop := ∀ id, v = .object id → h.Has id

/-- What is always so in the heap of a program. -/
structure Orderly (h : Heap) : Prop where
  prototypes : ∀ id p, h.IsPrototypeOf p id → h.Has p
  properties : ∀ id key v, h.ownProperty? id key = some (.data v) → h.HasValue v
  contents : ∀ id o, .object o ∈ (h.object id).kind.contents → o.index < id.index
  acyclic : WellFounded h.IsPrototypeOf
  keys : ∀ id, (h.ownKeys id).Nodup

/-! ## Objects after a change -/

variable {h : Heap}

theorem object_of_not_has {id : ObjectId} (hid : ¬ h.Has id) :
    h.object id = default := by
  have hget : h.objects[id.index]? = none := Array.getElem?_eq_none (Nat.not_lt.1 hid)
  rw [object, Array.getD_eq_getD_getElem?, hget]
  rfl

theorem object_allocate (h : Heap) (o : HostObject) (id : ObjectId) :
    (h.allocate o).2.object id = if id.index = h.objects.size then o else h.object id := by
  simp only [allocate, object, Array.getD_eq_getD_getElem?, Array.getElem?_push]
  split <;> simp_all

theorem size_allocate (h : Heap) (o : HostObject) :
    (h.allocate o).2.objects.size = h.objects.size + 1 := by
  simp [allocate]

theorem object_modify (h : Heap) (id : ObjectId) (f : HostObject → HostObject) (i : ObjectId) :
    (h.modify id f).object i = if i = id ∧ h.Has id then f (h.object i) else h.object i := by
  simp only [modify, object, Array.getD_eq_getD_getElem?, Array.getElem?_modify]
  by_cases hi : i = id
  · subst hi
    by_cases hhas : h.Has i
    · have hget : h.objects[i.index]? = some h.objects[i.index] := Array.getElem?_eq_getElem hhas
      simp [hget, hhas]
    · have hget : h.objects[i.index]? = none := Array.getElem?_eq_none (Nat.not_lt.1 hhas)
      simp [hget, hhas]
  · have hne : id.index ≠ i.index := fun heq => hi (by cases i; cases id; exact congrArg _ heq.symm)
    rw [if_neg hne, if_neg fun hc => hi hc.1]

theorem size_modify (h : Heap) (id : ObjectId) (f : HostObject → HostObject) :
    (h.modify id f).objects.size = h.objects.size := by
  simp [modify]

/-! ## A new object -/

theorem Has.allocate {id : ObjectId} (hid : h.Has id) (o : HostObject) :
    (h.allocate o).2.Has id := by
  rw [Has, size_allocate]
  exact Nat.lt_succ_of_lt hid

theorem HasValue.allocate {v : Value} (hv : h.HasValue v) (o : HostObject) :
    (h.allocate o).2.HasValue v :=
  fun id hid => (hv id hid).allocate o

/-- An object that is made without properties, of objects that there are. -/
theorem Orderly.allocate (hh : h.Orderly) {o : HostObject} (hnew : o.properties = .empty)
    (hprototype : ∀ p, o.prototype = some p → h.Has p)
    (hcontents : ∀ v ∈ o.kind.contents, h.HasValue v) : (h.allocate o).2.Orderly where
  prototypes id p hp := by
    rw [IsPrototypeOf, object_allocate] at hp
    split at hp
    · exact (hprototype p hp).allocate o
    · exact (hh.prototypes id p hp).allocate o
  properties id key v hv := by
    rw [ownProperty?, object_allocate] at hv
    split at hv
    · rw [hnew, OrderedTable.get?_empty] at hv
      cases hv
    · exact (hh.properties id key v hv).allocate o
  contents id i hi := by
    rw [object_allocate] at hi
    split at hi
    · rename_i hid
      rw [hid]
      exact hcontents _ hi i rfl
    · exact hh.contents id i hi
  acyclic := by
    have hold : ∀ id : ObjectId, id.index ≠ h.objects.size →
        Acc (h.allocate o).2.IsPrototypeOf id := by
      intro id
      induction id using hh.acyclic.induction with
      | _ id ih =>
        intro hid
        refine ⟨_, fun p hp => ?_⟩
        rw [IsPrototypeOf, object_allocate, if_neg hid] at hp
        exact ih p hp (Nat.ne_of_lt (hh.prototypes id p hp))
    refine ⟨fun id => ?_⟩
    by_cases hid : id.index = h.objects.size
    · refine ⟨_, fun p hp => hold p ?_⟩
      rw [IsPrototypeOf, object_allocate, if_pos hid] at hp
      exact Nat.ne_of_lt (hprototype p hp)
    · exact hold id hid
  keys id := by
    rw [ownKeys, object_allocate]
    split
    · rw [hnew]
      exact List.nodup_nil
    · exact hh.keys id

/-! ## A property -/

theorem has_define {id i : ObjectId} {key : PropertyKey} {p : Property} :
    (h.define id key p).Has i ↔ h.Has i := by
  rw [Has, Has, define, size_modify]

theorem kind_define (h : Heap) (id : ObjectId) (key : PropertyKey) (p : Property) (i : ObjectId) :
    ((h.define id key p).object i).kind = (h.object i).kind := by
  rw [define, object_modify]
  split <;> rfl

theorem prototype_define (h : Heap) (id : ObjectId) (key : PropertyKey) (p : Property)
    (i : ObjectId) : ((h.define id key p).object i).prototype = (h.object i).prototype := by
  rw [define, object_modify]
  split <;> rfl

theorem ownProperty?_define {id i : ObjectId} {key k : PropertyKey} {p q : Property}
    (hq : (h.define id key p).ownProperty? i k = some q) : q = p ∨ h.ownProperty? i k = some q := by
  rw [ownProperty?, define, object_modify] at hq
  split at hq
  · by_cases hk : key = k
    · subst hk
      rw [OrderedTable.get?_put_self] at hq
      exact Or.inl (Option.some.inj hq).symm
    · rw [OrderedTable.get?_put_of_ne _ _ hk] at hq
      exact Or.inr hq
  · exact Or.inr hq

theorem Orderly.define (hh : h.Orderly) (id : ObjectId) (key : PropertyKey) {p : Property}
    (hp : ∀ v, p = .data v → h.HasValue v) : (h.define id key p).Orderly where
  prototypes i q hq := by
    rw [IsPrototypeOf, prototype_define] at hq
    exact has_define.2 (hh.prototypes i q hq)
  properties i k v hv o ho := by
    rcases ownProperty?_define hv with hnew | hold
    · exact has_define.2 (hp v hnew.symm o ho)
    · exact has_define.2 (hh.properties i k v hold o ho)
  contents i o ho := by
    rw [kind_define] at ho
    exact hh.contents i o ho
  acyclic := by
    have hsame : (h.define id key p).IsPrototypeOf = h.IsPrototypeOf := by
      funext q i
      rw [IsPrototypeOf, IsPrototypeOf, prototype_define]
    rw [hsame]
    exact hh.acyclic
  keys i := by
    rw [ownKeys, Heap.define, object_modify]
    split
    · exact OrderedTable.nodup_keys_put _ _ _ (hh.keys i)
    · exact hh.keys i

/-! ## Properties in a row -/

theorem size_setAll (h : Heap) (id : ObjectId) (ps : List (String × Value)) :
    (h.setAll id ps).objects.size = h.objects.size := by
  induction ps generalizing h with
  | nil => rfl
  | cons p ps ih => exact (ih _).trans (size_modify _ _ _)

/-- Own data properties under texts. -/
def dataProperties (ps : List (String × Value)) : List (PropertyKey × Property) :=
  ps.map fun p => (.string p.1, .data p.2)

theorem object_setAll (h : Heap) (id : ObjectId) (ps : List (String × Value)) (i : ObjectId) :
    (h.setAll id ps).object i = if i = id ∧ h.Has id then
      { h.object i with properties := (h.object i).properties.putAll (dataProperties ps) }
    else h.object i := by
  induction ps generalizing h with
  | nil => exact (ite_self (h.object i)).symm
  | cons p ps ih =>
    refine (ih (h.setData id (.string p.1) p.2)).trans ?_
    by_cases hi : i = id ∧ h.Has id
    · rw [if_pos hi, if_pos ⟨hi.1, has_define.2 hi.2⟩, setData, define, object_modify, if_pos hi]
      rfl
    · rw [if_neg hi, if_neg fun hc => hi ⟨hc.1, has_define.1 hc.2⟩, setData, define,
        object_modify, if_neg hi]

/-- A plain object with some own data properties, written in order. -/
def record (ps : List (String × Value)) : HostObject :=
  { kind := .ordinary, properties := .ofList (dataProperties ps) }

/-- The properties of a plain object that is new make the record of them. -/
theorem object_setAll_of_new {id : ObjectId} (hid : h.Has id)
    (hnew : h.object id = { kind := .ordinary }) (ps : List (String × Value)) :
    (h.setAll id ps).object id = record ps := by
  rw [object_setAll, if_pos ⟨rfl, hid⟩, hnew]
  rfl

/-- A record of properties with distinct keys has them as they are. -/
theorem record_of_nodup {ps : List (String × Value)} (hps : (ps.map (·.1)).Nodup) :
    record ps = { kind := .ordinary, properties := ⟨dataProperties ps⟩ } := by
  have htexts := hps.map fun _ _ => PropertyKey.string.inj
  have hkeys : ((dataProperties ps).map (·.1)).Nodup := by
    simpa only [dataProperties, List.map_map, Function.comp_def] using htexts
  exact congrArg (fun es => HostObject.mk .ordinary ⟨es⟩ none none)
    (OrderedTable.entries_ofList_of_nodup hkeys)

/-- Writing properties of an object that was just made is making it with them. -/
theorem setAll_allocate (h : Heap) (o : HostObject) (ps : List (String × Value)) :
    (h.allocate o).2.setAll ⟨h.objects.size⟩ ps =
      (h.allocate { o with properties := o.properties.putAll (dataProperties ps) }).2 := by
  have hdefine : ∀ (o : HostObject) (key : PropertyKey) (p : Property),
      (h.allocate o).2.define ⟨h.objects.size⟩ key p =
        (h.allocate { o with properties := o.properties.put key p }).2 := by
    intro o key p
    simp only [allocate, define, modify, Heap.mk.injEq, and_true]
    refine Array.ext (by simp) fun i hi _ => ?_
    rw [Array.getElem_modify, Array.getElem_push, Array.getElem_push]
    by_cases hlast : i < h.objects.size
    · rw [if_neg (Nat.ne_of_gt hlast), dif_pos hlast, dif_pos hlast]
    · have hsame : h.objects.size = i := by
        simp at hi
        omega
      rw [if_pos hsame, dif_neg hlast, dif_neg hlast]
  induction ps generalizing o with
  | nil => rfl
  | cons p ps ih =>
    refine (congrArg (fun h' => Heap.setAll h' _ ps) (hdefine o _ _)).trans ?_
    exact ih _

/-- Making a plain object and writing its properties is making a record of them. -/
theorem setAll_allocateKind (h : Heap) (ps : List (String × Value)) :
    (h.allocateKind .ordinary).2.setAll ⟨h.objects.size⟩ ps = (h.allocate (record ps)).2 :=
  setAll_allocate h { kind := .ordinary } ps

theorem Orderly.setAll (hh : h.Orderly) (id : ObjectId) {ps : List (String × Value)}
    (hps : ∀ p ∈ ps, h.HasValue p.2) : (h.setAll id ps).Orderly := by
  induction ps generalizing h with
  | nil => exact hh
  | cons p ps ih =>
    refine ih (hh.define id _ ?_) fun q hq o ho => ?_
    · rintro v ⟨⟩
      exact hps p List.mem_cons_self
    · exact has_define.2 (hps q (List.mem_cons_of_mem _ hq) o ho)

/-! ## Values of an object -/

/-- What a value holds from the beginning is there. -/
theorem Orderly.hasValue_of_mem_contents (hh : h.Orderly) {v w : Value}
    (hw : w ∈ (h.kind v).contents) : h.HasValue w := by
  cases v with
  | object id =>
    rw [kind, ObjectKind.contents_kind] at hw
    rintro o rfl
    by_cases hid : h.Has id
    · exact Nat.lt_trans (hh.contents id o hw) hid
    · rw [object_of_not_has hid] at hw
      cases hw
  | _ => cases hw

/-- The entries of the own properties with text keys are own properties. -/
theorem Orderly.ownProperty?_of_mem (hh : h.Orderly) {id : ObjectId} {key : String} {p : Property}
    (hp : (key, p) ∈ h.ownStringProperties id) : h.ownProperty? id (.string key) = some p := by
  obtain ⟨e, he, hkey⟩ := List.mem_filterMap.1 hp
  obtain ⟨k, q⟩ := e
  cases k with
  | symbol x => cases hkey
  | string s =>
    cases hkey
    exact OrderedTable.get?_of_mem (hh.keys id) he

/-! ## A prototype -/

/-- A walk that does not come to an object does not see what its prototype becomes. -/
theorem Walk.of_not_mem {start p : Option ObjectId} {ids : List ObjectId} {id : ObjectId}
    (hw : h.Walk start ids) (hid : id ∉ ids) :
    (h.modify id fun o => { o with prototype := p }).Walk start ids := by
  induction hw with
  | done => exact .done
  | @step i rest _ ih =>
    rw [List.mem_cons, not_or] at hid
    refine .step ?_
    rw [object_modify, if_neg fun hc => hid.1 hc.1.symm]
    exact ih hid.2

/-- The prototype of an object may become what has no chain that holds the object. -/
theorem Orderly.modifyPrototype (hh : h.Orderly) {id : ObjectId} {p : Option ObjectId}
    {ids : List ObjectId} (hp : ∀ o, p = some o → h.Has o) (hw : h.Walk p ids)
    (hid : id ∉ ids) : (h.modify id fun o => { o with prototype := p }).Orderly where
  prototypes i q hq := by
    rw [IsPrototypeOf, object_modify] at hq
    rw [Has, size_modify]
    split at hq
    · exact hp q hq
    · exact hh.prototypes i q hq
  properties i k v hv o ho := by
    rw [ownProperty?, object_modify] at hv
    rw [Has, size_modify]
    split at hv <;> exact hh.properties i k v hv o ho
  contents i o ho := by
    rw [object_modify] at ho
    split at ho <;> exact hh.contents i o ho
  acyclic := by
    -- what the object now leads to is as it was, and all others lead to it or to what they did
    have hnext := (hw.of_not_mem (p := p) hid).acc
    refine ⟨fun i => ?_⟩
    induction i using hh.acyclic.induction with
    | _ i ih =>
      refine ⟨_, fun q hq => ?_⟩
      rw [IsPrototypeOf, object_modify] at hq
      split at hq
      · exact hnext q hq
      · exact ih q hq
  keys i := by
    rw [ownKeys, object_modify]
    split <;> exact hh.keys i

/-- Nothing is refused but what would close a cycle. -/
theorem Orderly.setPrototype?_eq_none_iff (hh : h.Orderly) {p : Option ObjectId}
    (hp : ∀ o, p = some o → h.Has o) (id : ObjectId) :
    h.setPrototype? id p = none ↔ ∃ ids, h.Walk p ids ∧ id ∈ ids := by
  obtain ⟨ids, hw⟩ := exists_walk hh.acyclic p
  have hchain := hw.chain_eq hh.prototypes hp
  rw [setPrototype?, hchain]
  by_cases hid : id ∈ ids
  · rw [if_pos (List.contains_iff_mem.2 hid)]
    exact iff_of_true rfl ⟨ids, hw, hid⟩
  · rw [if_neg fun hc => hid (List.contains_iff_mem.1 hc)]
    refine iff_of_false (fun hc => nomatch hc) ?_
    rintro ⟨ids', hw', hid'⟩
    exact hid (hw.unique hw' ▸ hid')

theorem Orderly.setPrototype (hh : h.Orderly) {id : ObjectId} {p : Option ObjectId}
    (hp : ∀ o, p = some o → h.Has o) : ((h.setPrototype? id p).getD h).Orderly := by
  obtain ⟨ids, hw⟩ := exists_walk hh.acyclic p
  cases hset : h.setPrototype? id p with
  | none => exact hh
  | some h' =>
    have hid : id ∉ ids := by
      intro hc
      rw [(hh.setPrototype?_eq_none_iff hp id).2 ⟨ids, hw, hc⟩] at hset
      cases hset
    rw [setPrototype?] at hset
    split at hset
    · cases hset
    · cases hset
      exact hh.modifyPrototype hp hw hid

/-! ## Steps -/

theorem orderly_empty : Orderly .empty where
  prototypes _ _ hp := nomatch hp
  properties _ _ _ hv := nomatch hv
  contents _ _ ho := nomatch ho
  acyclic := ⟨fun _ => ⟨_, fun _ hp => nomatch hp⟩⟩
  keys _ := List.nodup_nil

theorem Orderly.instancePrototype? (hh : h.Orderly) {c p : ObjectId}
    (hp : h.instancePrototype? c = some p) : h.Has p := by
  unfold Heap.instancePrototype? at hp
  split at hp
  · rename_i q hq
    cases hp
    exact hh.properties c _ _ hq p rfl
  · cases hp

theorem Orderly.newError (hh : h.Orderly) (name message : String) :
    (h.newError name message).2.Orderly := by
  refine .define (.define (hh.allocate rfl ?_ ?_) _ _ ?_) _ _ ?_
  · exact fun _ hp => nomatch hp
  · exact fun _ hv => nomatch hv
  · rintro v ⟨⟩ id ⟨⟩
  · rintro v ⟨⟩ id ⟨⟩

theorem Orderly.newClass (hh : h.Orderly) (name : String) (parent : Option ObjectId) :
    (h.newClass name parent).2.Orderly := by
  refine .define (.allocate (hh.allocate rfl ?_ ?_) rfl ?_ ?_) _ _ ?_
  · intro p hp
    obtain ⟨c, -, hc⟩ := Option.bind_eq_some_iff.1 hp
    exact hh.instancePrototype? hc
  · exact fun _ hv => nomatch hv
  · exact fun _ hp => nomatch hp
  · exact fun _ hv => nomatch hv
  · rintro v ⟨⟩ id ⟨⟩
    refine Has.allocate ?_ _
    rw [Has, size_allocate]
    exact Nat.lt_succ_self _

/-- **Each step of a program leaves an orderly heap.** -/
theorem Orderly.perform (hh : h.Orderly) {op : Operation} (hop : ∀ id ∈ op.objects, h.Has id) :
    (h.perform op).Orderly := by
  cases op with
  | create kind =>
    refine hh.allocate rfl (fun _ hp => nomatch hp) fun v hv id hid => ?_
    exact hop id (List.mem_filterMap.2 ⟨v, hv, by rw [hid, Value.object?]⟩)
  | createWithPrototype p =>
    refine hh.allocate rfl (fun q hq => ?_) fun _ hv => nomatch hv
    cases hq
    exact hop p List.mem_cons_self
  | createError name message => exact hh.newError name message
  | createClass name parent => exact hh.newClass name parent
  | construct c =>
    exact hh.allocate rfl (fun _ hp => hh.instancePrototype? hp) fun _ hv => nomatch hv
  | createSymbol description => exact ⟨hh.1, hh.2, hh.3, hh.4, hh.5⟩
  | set id key v =>
    refine hh.define id key fun w hw o ho => hop o ?_
    cases hw
    cases ho
    exact List.mem_cons_of_mem _ List.mem_cons_self
  | defineGetter id key getter => exact hh.define id key fun _ hv => nomatch hv
  | setPrototype id p =>
    refine hh.setPrototype fun o ho => hop o ?_
    cases ho
    exact List.mem_cons_of_mem _ List.mem_cons_self

/-- **Whatever a program does, its heap is orderly.** -/
theorem Reachable.orderly (hr : h.Reachable) : h.Orderly := by
  induction hr with
  | empty => exact orderly_empty
  | perform _ op hop ih => exact ih.perform hop

end Heap

end ProbeEngine.Host
