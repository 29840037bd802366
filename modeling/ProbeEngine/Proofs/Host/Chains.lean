import Mathlib.Data.List.Nodup
import Mathlib.Data.List.Perm.Subperm
import ProbeEngine.Host.Heap

/-!
# Walks along prototypes

A question about the chain of an object is asked of one object after the other until
there is none left. `Walk` and `Search` say what such a loop comes to when nothing but
the end of the chain ends it; where the prototypes close a cycle there is no walk. The
places of a walk are distinct (`Walk.nodup`), so in a heap it has no more of them than
there are objects, and `Heap.chain` is the walk itself (`Walk.chain_eq`).
-/

namespace ProbeEngine.Host.Heap

/-- There is an object at a place. -/
def Has (h : Heap) (id : ObjectId) : Prop := id.index < h.objects.size

instance (h : Heap) (id : ObjectId) : Decidable (h.Has id) :=
  inferInstanceAs (Decidable (id.index < h.objects.size))

/-- An object is the prototype of another one. -/
def IsPrototypeOf (h : Heap) (p id : ObjectId) : Prop := (h.object id).prototype = some p

/-- The places from one on along the prototypes, to an object that has none. -/
inductive Walk (h : Heap) : Option ObjectId → List ObjectId → Prop
  | done : Walk h none []
  | step {id : ObjectId} {ids : List ObjectId} (hnext : Walk h (h.object id).prototype ids) :
      Walk h (some id) (id :: ids)

/-- The outcome of a loop along the prototypes that stops at the first object with an
answer. -/
inductive Search {α : Type} (h : Heap) (answer? : ObjectId → Option α) :
    Option ObjectId → Option α → Prop
  | ended : Search h answer? none none
  | found {id : ObjectId} {a : α} (ha : answer? id = some a) : Search h answer? (some id) (some a)
  | next {id : ObjectId} {r : Option α} (ha : answer? id = none)
      (hnext : Search h answer? (h.object id).prototype r) : Search h answer? (some id) r

variable {h : Heap} {start : Option ObjectId} {ids : List ObjectId}

/-! ## The places of a walk -/

theorem Walk.unique (hw : h.Walk start ids) {ids' : List ObjectId} (hw' : h.Walk start ids') :
    ids = ids' := by
  induction hw generalizing ids' with
  | done =>
    cases hw'
    rfl
  | step _ ih =>
    cases hw' with
    | step hnext' => rw [ih hnext']

/-- From each of its places on, a walk is the walk from there. -/
theorem Walk.exists_suffix (hw : h.Walk start ids) {id : ObjectId} (hid : id ∈ ids) :
    ∃ before after, ids = before ++ after ∧ h.Walk (some id) after := by
  induction hw with
  | done => cases hid
  | @step first rest hnext ih =>
    rcases List.mem_cons.1 hid with rfl | hid
    · exact ⟨[], id :: rest, rfl, .step hnext⟩
    · obtain ⟨before, after, hrest, hafter⟩ := ih hid
      exact ⟨first :: before, after, by rw [hrest, List.cons_append], hafter⟩

/-- A walk comes to no place twice: from there on it would go on as it did before. -/
theorem Walk.nodup (hw : h.Walk start ids) : ids.Nodup := by
  induction hw with
  | done => exact List.nodup_nil
  | @step id rest hnext ih =>
    refine List.nodup_cons.2 ⟨fun hid => ?_, ih⟩
    obtain ⟨before, after, hrest, hafter⟩ := hnext.exists_suffix hid
    have hsame : after = id :: rest := hafter.unique (.step hnext)
    have hlength := congrArg List.length hrest
    rw [hsame, List.length_append, List.length_cons] at hlength
    omega

/-! ## Where there are walks -/

theorem exists_walk_of_acc {id : ObjectId} (hid : Acc h.IsPrototypeOf id) :
    ∃ ids, h.Walk (some id) ids := by
  induction hid with
  | intro id _ ih =>
    cases hp : (h.object id).prototype with
    | none => exact ⟨[id], .step (hp ▸ .done)⟩
    | some p =>
      obtain ⟨ids, hids⟩ := ih p hp
      exact ⟨id :: ids, .step (hp ▸ hids)⟩

theorem Walk.acc (hw : h.Walk start ids) : ∀ id, start = some id → Acc h.IsPrototypeOf id := by
  induction hw with
  | done => exact fun _ hid => nomatch hid
  | step _ ih =>
    intro id hid
    cases hid
    exact ⟨_, fun p hp => ih p hp⟩

/-- Every place has a walk where no chain of prototypes goes on without an end. -/
theorem exists_walk (hh : WellFounded h.IsPrototypeOf) (start : Option ObjectId) :
    ∃ ids, h.Walk start ids := by
  cases start with
  | none => exact ⟨[], .done⟩
  | some id => exact exists_walk_of_acc (hh.apply id)

/-! ## Walks and chains -/

theorem Walk.chainWithin_eq (hw : h.Walk start ids) {n : Nat} (hn : ids.length ≤ n) :
    h.chainWithin n start = ids := by
  induction hw generalizing n with
  | done => cases n <;> rfl
  | step _ ih =>
    cases n with
    | zero => simp at hn
    | succ n => rw [chainWithin, ih (by simpa using hn)]

theorem Walk.has (hw : h.Walk start ids) (hh : ∀ id p, h.IsPrototypeOf p id → h.Has p)
    (hstart : ∀ id, start = some id → h.Has id) : ∀ id ∈ ids, h.Has id := by
  induction hw with
  | done => simp
  | @step id rest _ ih =>
    have hrest := ih fun p hp => hh id p hp
    intro o ho
    rcases List.mem_cons.1 ho with rfl | ho
    · exact hstart o rfl
    · exact hrest o ho

theorem length_le_size (hnodup : ids.Nodup) (hids : ∀ id ∈ ids, h.Has id) :
    ids.length ≤ h.objects.size := by
  have hindices : (ids.map ObjectId.index).Nodup := by
    refine hnodup.map fun a b hab => ?_
    cases a
    cases b
    exact congrArg ObjectId.mk hab
  have hrange : ids.map ObjectId.index ⊆ List.range h.objects.size := by
    intro i hi
    obtain ⟨id, hid, rfl⟩ := List.mem_map.1 hi
    exact List.mem_range.2 (hids id hid)
  have hlength := (hindices.subperm hrange).length_le
  rwa [List.length_map, List.length_range] at hlength

/-- **The chain is the whole walk**: the bound on its length never cuts it. -/
theorem Walk.chain_eq (hw : h.Walk start ids) (hh : ∀ id p, h.IsPrototypeOf p id → h.Has p)
    (hstart : ∀ id, start = some id → h.Has id) : h.chain start = ids :=
  hw.chainWithin_eq (length_le_size hw.nodup (hw.has hh hstart))

/-! ## Searches -/

variable {α : Type} {answer? : ObjectId → Option α}

/-- Along a walk, a search gives the first answer. -/
theorem Walk.search (hw : h.Walk start ids) (answer? : ObjectId → Option α) :
    h.Search answer? start (ids.findSome? answer?) := by
  induction hw with
  | done => exact .ended
  | @step id rest _ ih =>
    rw [List.findSome?_cons]
    cases ha : answer? id with
    | none => exact .next ha ih
    | some a => exact .found ha

theorem Search.unique {r r' : Option α} (hs : h.Search answer? start r)
    (hs' : h.Search answer? start r') : r = r' := by
  induction hs generalizing r' with
  | ended =>
    cases hs'
    rfl
  | found ha =>
    cases hs' with
    | found ha' => rw [← ha, ha']
    | next ha' _ => cases ha.symm.trans ha'
  | next ha _ ih =>
    cases hs' with
    | found ha' => cases ha.symm.trans ha'
    | next _ hnext' => exact ih hnext'

end ProbeEngine.Host.Heap
