import Mathlib.Logic.Relation
import ProbeEngine.Proofs.Expr.Additions

/-!
# Hierarchies of classes

A program declares classes, some of which extend others, and constructs instances of
them. The heap has no classes: it has functions with a property `prototype`, and objects
that inherit from what was found there once. As long as no step replaces one of these
links, that is all the same (`Hierarchy`):

* `Linked` — the links of a hierarchy as the heap holds them; a new object breaks none
  (`Linked.of_extends`), and neither does a step that replaces none (`Linked.perform`);
* `Linked.walk` — so the objects that an instance inherits from are those of its class
  and of the ancestors of that class, in this order;
* `instances_follow_hierarchy` — **`instanceof` asks for the class or an ancestor**, as an
  object and not by its name.
-/

namespace ProbeEngine.Host

/-- A class as it was declared: the object that it is, its name, and the class that it
extends, if it extends one. -/
structure ClassDeclaration where
  object : ObjectId
  name : String
  parent : Option ObjectId
  deriving DecidableEq

/-- An object that was constructed, and the class of which it was. -/
structure ClassInstance where
  object : ObjectId
  ofClass : ObjectId

/-! ## Declarations -/

namespace ClassDeclaration

/-- Among some declarations, a class extends another one. -/
def DirectlyExtends (cs : List ClassDeclaration) (c d : ClassDeclaration) : Prop :=
  c ∈ cs ∧ d ∈ cs ∧ c.parent = some d.object

/-- A class and its ancestors, nearest first. The newest declarations come first, so the
class that one extends is declared further on. -/
def ancestry : List ClassDeclaration → ObjectId → List ClassDeclaration
  | [], _ => []
  | c :: cs, id => if c.object = id then c :: c.parent.elim [] (ancestry cs) else ancestry cs id

/-- Declarations one after the other, newest first: each is of a new object, and what it
extends was declared before. -/
inductive Declared : List ClassDeclaration → Prop
  | nil : Declared []
  | cons {c : ClassDeclaration} {cs : List ClassDeclaration} (hnew : ∀ d ∈ cs, d.object ≠ c.object)
      (hparent : ∀ id, c.parent = some id → ∃ d ∈ cs, d.object = id) (hcs : Declared cs) :
      Declared (c :: cs)

variable {cs : List ClassDeclaration} {c d : ClassDeclaration}

theorem DirectlyExtends.cons (h : DirectlyExtends cs c d) (e : ClassDeclaration) :
    DirectlyExtends (e :: cs) c d :=
  ⟨List.mem_cons_of_mem _ h.1, List.mem_cons_of_mem _ h.2.1, h.2.2⟩

theorem ancestry_cons_self (c : ClassDeclaration) (cs : List ClassDeclaration) :
    ancestry (c :: cs) c.object = c :: c.parent.elim [] (ancestry cs) :=
  if_pos rfl

theorem ancestry_cons_of_ne {id : ObjectId} (h : c.object ≠ id) :
    ancestry (c :: cs) id = ancestry cs id :=
  if_neg h

theorem Declared.exists_parent (h : Declared cs) (hc : c ∈ cs) {id : ObjectId}
    (hid : c.parent = some id) : ∃ d ∈ cs, d.object = id := by
  induction h with
  | nil => cases hc
  | @cons x xs _ hparent _ ih =>
    have hold : ∃ d ∈ xs, d.object = id := by
      rcases List.mem_cons.1 hc with rfl | hc
      · exact hparent id hid
      · exact ih hc
    obtain ⟨d, hd, hobject⟩ := hold
    exact ⟨d, List.mem_cons_of_mem _ hd, hobject⟩

/-- A class comes first in its ancestry, and then the ancestry of the class that it
extends. -/
theorem Declared.ancestry_eq (h : Declared cs) (hc : c ∈ cs) :
    ancestry cs c.object = c :: c.parent.elim [] (ancestry cs) := by
  induction h with
  | nil => cases hc
  | @cons x xs hnew hparent hxs ih =>
    -- what a class extends is not the newest one, so that one does not hide it
    have hrest : c.parent.elim [] (ancestry (x :: xs)) = c.parent.elim [] (ancestry xs) := by
      cases hp : c.parent with
      | none => rfl
      | some id =>
        have hold : ∃ d ∈ xs, d.object = id := by
          rcases List.mem_cons.1 hc with rfl | hc
          · exact hparent id hp
          · exact hxs.exists_parent hc hp
        obtain ⟨d, hd, rfl⟩ := hold
        exact ancestry_cons_of_ne fun heq => hnew d hd heq.symm
    rw [hrest]
    rcases List.mem_cons.1 hc with rfl | hc
    · exact ancestry_cons_self _ _
    · rw [ancestry_cons_of_ne fun heq => hnew c hc heq.symm]
      exact ih hc

/-- The ancestry of a class is the class and what it extends, directly or by others. -/
theorem Declared.mem_ancestry_iff (h : Declared cs) (hc : c ∈ cs) :
    d ∈ ancestry cs c.object ↔ Relation.ReflTransGen (DirectlyExtends cs) c d := by
  constructor
  · intro hd
    induction h generalizing c with
    | nil => cases hc
    | @cons x xs hnew hparent hxs ih =>
      have hmono : Relation.ReflTransGen (DirectlyExtends xs) ≤
          Relation.ReflTransGen (DirectlyExtends (x :: xs)) :=
        Relation.ReflTransGen.mono fun _ _ hext => DirectlyExtends.cons hext x
      rcases List.mem_cons.1 hc with rfl | hc
      · rw [ancestry_cons_self, List.mem_cons] at hd
        rcases hd with rfl | hd
        · exact .refl
        · cases hp : c.parent with
          | none => simp [hp] at hd
          | some id =>
            obtain ⟨e, he, rfl⟩ := hparent id hp
            rw [hp] at hd
            exact .head ⟨List.mem_cons_self, List.mem_cons_of_mem _ he, hp⟩ (hmono _ _ (ih he hd))
      · rw [ancestry_cons_of_ne fun heq => hnew c hc heq.symm] at hd
        exact hmono _ _ (ih hc hd)
  · intro hd
    induction hd using Relation.ReflTransGen.head_induction_on with
    | refl =>
      rw [h.ancestry_eq hc]
      exact List.mem_cons_self
    | head hext _ ih =>
      rw [h.ancestry_eq hext.1, hext.2.2]
      exact List.mem_cons_of_mem _ (ih hext.2.1)

theorem Declared.ancestry_subset (h : Declared cs) (hc : c ∈ cs) : ancestry cs c.object ⊆ cs := by
  intro d hd
  rcases Relation.ReflTransGen.cases_tail ((h.mem_ancestry_iff hc).1 hd) with rfl | ⟨e, -, he⟩
  · exact hc
  · exact he.2.1

end ClassDeclaration

namespace Heap

open ClassDeclaration

/-! ## Hierarchies in a heap -/

/-- A step replaces a link of a hierarchy: the property `prototype` of a class, the
prototype of the object in that property, or that of an instance. A prototype that is
refused is not replaced. -/
def Operation.Replaces (h : Heap) (cs : List ClassDeclaration) (is : List ClassInstance) :
    Operation → Prop
  | .set id key _ | .defineGetter id key _ =>
    key = .string "prototype" ∧ ∃ c ∈ cs, c.object = id
  | .setPrototype id p =>
    h.setPrototype? id p ≠ none ∧
      ((∃ c ∈ cs, h.instancePrototype? c.object = some id) ∨ ∃ i ∈ is, i.object = id)
  | _ => False

/-- The heaps that a program builds together with a hierarchy of classes and instances of
them, newest first. In between it does what it likes, also with other classes, but it
replaces no link of the hierarchy. -/
inductive Hierarchy : Heap → List ClassDeclaration → List ClassInstance → Prop
  | empty : Hierarchy .empty [] []
  | declare {h : Heap} {cs : List ClassDeclaration} {is : List ClassInstance}
      (hh : Hierarchy h cs is) (name : String) (parent : Option ObjectId)
      (hparent : ∀ id, parent = some id → ∃ d ∈ cs, d.object = id) :
      Hierarchy (h.newClass name parent).2 (⟨(h.newClass name parent).1, name, parent⟩ :: cs) is
  | construct {h : Heap} {cs : List ClassDeclaration} {is : List ClassInstance}
      (hh : Hierarchy h cs is) {c : ClassDeclaration} (hc : c ∈ cs) :
      Hierarchy (h.construct c.object).2 cs (⟨(h.construct c.object).1, c.object⟩ :: is)
  | other {h : Heap} {cs : List ClassDeclaration} {is : List ClassInstance}
      (hh : Hierarchy h cs is) (op : Operation) (hop : ¬ op.Replaces h cs is) :
      Hierarchy (h.perform op) cs is

/-- The links of a hierarchy as the heap holds them. -/
structure Linked (h : Heap) (cs : List ClassDeclaration) (is : List ClassInstance) : Prop where
  callable : ∀ c ∈ cs, (h.function? c.object).isSome
  /-- The object of a class carries its name, and inherits from that of the parent. -/
  prototypes : ∀ c ∈ cs, ∃ p, h.instancePrototype? c.object = some p ∧
    (h.object p).className = some c.name ∧
    (h.object p).prototype = c.parent.bind h.instancePrototype?
  distinct : ∀ c ∈ cs, ∀ d ∈ cs,
    h.instancePrototype? c.object = h.instancePrototype? d.object → c = d
  instances : ∀ i ∈ is, (h.object i.object).kind = .ordinary ∧
    (h.object i.object).prototype = h.instancePrototype? i.ofClass ∧ ∃ c ∈ cs, c.object = i.ofClass

/-- Two heaps hold the same links of a hierarchy. -/
structure SameLinks (h h' : Heap) (cs : List ClassDeclaration) (is : List ClassInstance) :
    Prop where
  classes : ∀ c ∈ cs, (h'.object c.object).kind = (h.object c.object).kind ∧
    h'.ownProperty? c.object (.string "prototype") = h.ownProperty? c.object (.string "prototype")
  prototypes : ∀ c ∈ cs, ∀ p, h.instancePrototype? c.object = some p →
    (h'.object p).className = (h.object p).className ∧
    (h'.object p).prototype = (h.object p).prototype
  instances : ∀ i ∈ is, (h'.object i.object).kind = (h.object i.object).kind ∧
    (h'.object i.object).prototype = (h.object i.object).prototype

variable {h h' : Heap} {cs : List ClassDeclaration} {is : List ClassInstance}

theorem SameLinks.function?_eq (hs : SameLinks h h' cs is) {c : ClassDeclaration} (hc : c ∈ cs) :
    h'.function? c.object = h.function? c.object := by
  rw [function?, function?, (hs.classes c hc).1]

theorem SameLinks.instancePrototype?_eq (hs : SameLinks h h' cs is) {c : ClassDeclaration}
    (hc : c ∈ cs) : h'.instancePrototype? c.object = h.instancePrototype? c.object := by
  rw [instancePrototype?, instancePrototype?, (hs.classes c hc).2]

/-! ## New objects -/

theorem extends_newError (h : Heap) (name message : String) :
    h.Extends (h.newError name message).2 :=
  ((h.extends_allocate _).setData (Nat.le_refl _) _ _).setData (Nat.le_refl _) _ _

/-- The object from which the instances of a class inherit, when the class is made. -/
def classPrototype (h : Heap) (name : String) (parent : Option ObjectId) : HostObject :=
  { kind := .ordinary, prototype := parent.bind h.instancePrototype?, className := some name }

theorem exists_newClass (h : Heap) (name : String) (parent : Option ObjectId) :
    ∃ f : FunctionInfo, h.newClass name parent = (⟨h.objects.size + 1⟩,
      ((h.allocate (h.classPrototype name parent)).2.allocate { kind := .function f }).2.setData
        ⟨h.objects.size + 1⟩ (.string "prototype") (.object ⟨h.objects.size⟩)) := by
  have hsize := h.size_allocate (h.classPrototype name parent)
  rw [← hsize]
  exact ⟨_, rfl⟩

theorem extends_newClass (h : Heap) (name : String) (parent : Option ObjectId) :
    h.Extends (h.newClass name parent).2 := by
  obtain ⟨f, hnew⟩ := h.exists_newClass name parent
  rw [hnew]
  exact ((h.extends_allocate _).trans (extends_allocate _ _)).setData (Nat.le_succ _) _ _

/-- A new class is a function, and the object in its property `prototype` is new too. -/
theorem of_newClass (h : Heap) (name : String) (parent : Option ObjectId) :
    (h.newClass name parent).1 = ⟨h.objects.size + 1⟩ ∧
    ((h.newClass name parent).2.function? ⟨h.objects.size + 1⟩).isSome ∧
    (h.newClass name parent).2.instancePrototype? ⟨h.objects.size + 1⟩ = some ⟨h.objects.size⟩ ∧
    (h.newClass name parent).2.object ⟨h.objects.size⟩ = h.classPrototype name parent := by
  obtain ⟨f, hnew⟩ := h.exists_newClass name parent
  have hsize := h.size_allocate (h.classPrototype name parent)
  have hhas : ((h.allocate (h.classPrototype name parent)).2.allocate { kind := .function f }).2.Has
      ⟨h.objects.size + 1⟩ := by
    rw [Has, size_allocate, hsize]
    exact Nat.lt_succ_self _
  have hne : (⟨h.objects.size⟩ : ObjectId) ≠ ⟨h.objects.size + 1⟩ := by simp
  rw [hnew]
  refine ⟨rfl, ?_, ?_, ?_⟩
  · rw [function?, setData, kind_define, object_allocate, if_pos hsize.symm]
    rfl
  · rw [instancePrototype?, ownProperty?, setData, define, object_modify, if_pos ⟨rfl, hhas⟩,
      OrderedTable.get?_put_self]
  · rw [setData, define, object_modify, if_neg fun hc => hne hc.1, object_allocate,
      if_neg (by rw [hsize]; exact Nat.ne_of_lt (Nat.lt_succ_self _)), object_allocate, if_pos rfl]

theorem Extends.instancePrototype?_eq (he : h.Extends h') {id : ObjectId} (hid : h.Has id) :
    h'.instancePrototype? id = h.instancePrototype? id := by
  rw [instancePrototype?, instancePrototype?, ownProperty?, ownProperty?, he.object_eq id hid]

/-! ## What there is -/

theorem has_of_function? {id : ObjectId} (hid : (h.function? id).isSome) : h.Has id := by
  by_contra hnot
  rw [function?, object_of_not_has hnot] at hid
  cases hid

theorem has_of_className {id : ObjectId} {name : String}
    (hid : (h.object id).className = some name) : h.Has id := by
  by_contra hnot
  rw [object_of_not_has hnot] at hid
  cases hid

theorem has_of_prototype {id p : ObjectId} (hid : (h.object id).prototype = some p) :
    h.Has id := by
  by_contra hnot
  rw [object_of_not_has hnot] at hid
  cases hid

namespace Linked

variable {c : ClassDeclaration} {i : ClassInstance}

theorem has_class (hl : h.Linked cs is) (hc : c ∈ cs) : h.Has c.object :=
  has_of_function? (hl.callable c hc)

theorem has_prototype (hl : h.Linked cs is) (hc : c ∈ cs) {p : ObjectId}
    (hp : h.instancePrototype? c.object = some p) : h.Has p := by
  obtain ⟨q, hq, hname, -⟩ := hl.prototypes c hc
  cases hp.symm.trans hq
  exact has_of_className hname

theorem has_instance (hl : h.Linked cs is) (hi : i ∈ is) : h.Has i.object := by
  obtain ⟨-, hproto, c, hc, hclass⟩ := hl.instances i hi
  obtain ⟨p, hp, -⟩ := hl.prototypes c hc
  rw [← hclass, hp] at hproto
  exact has_of_prototype hproto

/-! ## Steps that keep the links -/

theorem of_sameLinks (hl : h.Linked cs is) (hs : SameLinks h h' cs is)
    (hcs : Declared cs) : h'.Linked cs is where
  callable c hc := by
    rw [hs.function?_eq hc]
    exact hl.callable c hc
  prototypes c hc := by
    obtain ⟨p, hp, hname, hparent⟩ := hl.prototypes c hc
    obtain ⟨hname', hparent'⟩ := hs.prototypes c hc p hp
    refine ⟨p, by rw [hs.instancePrototype?_eq hc, hp], hname'.trans hname, ?_⟩
    rw [hparent', hparent]
    cases hid : c.parent with
    | none => rfl
    | some id =>
      obtain ⟨d, hd, rfl⟩ := hcs.exists_parent hc hid
      exact (hs.instancePrototype?_eq hd).symm
  distinct c hc d hd heq := by
    rw [hs.instancePrototype?_eq hc, hs.instancePrototype?_eq hd] at heq
    exact hl.distinct c hc d hd heq
  instances i hi := by
    obtain ⟨hkind, hproto, c, hc, hclass⟩ := hl.instances i hi
    refine ⟨(hs.instances i hi).1.trans hkind, ?_, c, hc, hclass⟩
    rw [(hs.instances i hi).2, hproto, ← hclass, hs.instancePrototype?_eq hc]

/-- Objects that are new break no link. -/
theorem of_extends (hl : h.Linked cs is) (hcs : Declared cs) (he : h.Extends h') :
    h'.Linked cs is := by
  refine hl.of_sameLinks ⟨fun c hc => ?_, fun c hc p hp => ?_, fun i hi => ?_⟩ hcs
  · rw [ownProperty?, ownProperty?, he.object_eq c.object (hl.has_class hc)]
    exact ⟨rfl, rfl⟩
  · rw [he.object_eq p (hl.has_prototype hc hp)]
    exact ⟨rfl, rfl⟩
  · rw [he.object_eq i.object (hl.has_instance hi)]
    exact ⟨rfl, rfl⟩

/-- Writing a property other than `prototype` of a class breaks no link. -/
theorem define (hl : h.Linked cs is) (hcs : Declared cs) {id : ObjectId} {key : PropertyKey}
    (hkey : key = .string "prototype" → ∀ c ∈ cs, c.object ≠ id) (p : Property) :
    (h.define id key p).Linked cs is := by
  refine hl.of_sameLinks ⟨fun c hc => ⟨kind_define h id key p c.object, ?_⟩,
    fun c _ q _ => ⟨?_, prototype_define h id key p q⟩,
    fun i _ => ⟨kind_define h id key p i.object, prototype_define h id key p i.object⟩⟩ hcs
  · rw [ownProperty?, ownProperty?, Heap.define, object_modify]
    split
    · rename_i hwritten
      exact OrderedTable.get?_put_of_ne _ _ fun heq => hkey heq c hc hwritten.1
    · rfl
  · rw [Heap.define, object_modify]
    split <;> rfl

/-- Giving another prototype to an object that is none of the hierarchy breaks no link. -/
theorem modifyPrototype (hl : h.Linked cs is) (hcs : Declared cs) {id : ObjectId}
    (hclass : ∀ c ∈ cs, h.instancePrototype? c.object ≠ some id)
    (hinstance : ∀ i ∈ is, i.object ≠ id) (p : Option ObjectId) :
    (h.modify id fun o => { o with prototype := p }).Linked cs is := by
  have hobject : ∀ i, i ≠ id → (h.modify id fun o => { o with prototype := p }).object i =
      h.object i := by
    intro i hi
    rw [object_modify, if_neg fun hc => hi hc.1]
  refine hl.of_sameLinks ⟨fun c _ => ?_, fun c hc q hq => ?_, fun i hi => ?_⟩ hcs
  · rw [ownProperty?, ownProperty?, object_modify]
    split <;> exact ⟨rfl, rfl⟩
  · rw [hobject q fun heq => hclass c hc (heq ▸ hq)]
    exact ⟨rfl, rfl⟩
  · rw [hobject i.object (hinstance i hi)]
    exact ⟨rfl, rfl⟩

/-- **A step that replaces no link keeps them all.** -/
theorem perform (hl : h.Linked cs is) (hcs : Declared cs) {op : Operation}
    (hop : ¬ op.Replaces h cs is) : (h.perform op).Linked cs is := by
  cases op with
  | create kind => exact hl.of_extends hcs (h.extends_allocate _)
  | createWithPrototype p => exact hl.of_extends hcs (h.extends_allocate _)
  | createError name message => exact hl.of_extends hcs (h.extends_newError name message)
  | createClass name parent => exact hl.of_extends hcs (h.extends_newClass name parent)
  | construct c => exact hl.of_extends hcs (h.extends_allocate _)
  | createSymbol description => exact ⟨hl.1, hl.2, hl.3, hl.4⟩
  | set id key v =>
    refine hl.define hcs (fun hkey c hc heq => hop ?_) (.data v)
    exact ⟨hkey, c, hc, heq⟩
  | defineGetter id key getter =>
    refine hl.define hcs (fun hkey c hc heq => hop ?_) (.accessor getter)
    exact ⟨hkey, c, hc, heq⟩
  | setPrototype id p =>
    have hperform : h.perform (.setPrototype id p) = (h.setPrototype? id p).getD h := rfl
    cases hset : h.setPrototype? id p with
    | none =>
      rw [hperform, hset]
      exact hl
    | some h' =>
      have hreplaces : h.setPrototype? id p ≠ none := by simp [hset]
      rw [hperform, hset, Option.getD_some]
      rw [setPrototype?] at hset
      split at hset
      · cases hset
      · cases hset
        refine hl.modifyPrototype hcs (fun c hc heq => hop ?_) (fun i hi heq => hop ?_) p
        · exact ⟨hreplaces, .inl ⟨c, hc, heq⟩⟩
        · exact ⟨hreplaces, .inr ⟨i, hi, heq⟩⟩

/-- **A new class is linked** to the one that it extends. -/
theorem declare (hl : h.Linked cs is) (hcs : Declared cs) (name : String)
    {parent : Option ObjectId} (hparent : ∀ id, parent = some id → ∃ d ∈ cs, d.object = id) :
    (h.newClass name parent).2.Linked (⟨(h.newClass name parent).1, name, parent⟩ :: cs) is := by
  have he := h.extends_newClass name parent
  have hold := hl.of_extends hcs he
  obtain ⟨hid, hcallable, hproto, hobject⟩ := h.of_newClass name parent
  -- the objects of older classes were there before
  have hfresh : ∀ d ∈ cs, (h.newClass name parent).2.instancePrototype? d.object ≠
      some ⟨h.objects.size⟩ := by
    intro d hd heq
    rw [he.instancePrototype?_eq (hl.has_class hd)] at heq
    exact Nat.lt_irrefl _ (hl.has_prototype hd heq)
  rw [hid]
  constructor
  case callable =>
    exact List.forall_mem_cons.2 ⟨hcallable, hold.callable⟩
  case prototypes =>
    refine List.forall_mem_cons.2 ⟨⟨_, hproto, by rw [hobject]; rfl, ?_⟩, hold.prototypes⟩
    rw [hobject]
    refine Option.bind_congr fun id hp => ?_
    obtain ⟨d, hd, rfl⟩ := hparent id hp
    exact (he.instancePrototype?_eq (hl.has_class hd)).symm
  case distinct =>
    refine List.forall_mem_cons.2 ⟨List.forall_mem_cons.2 ⟨fun _ => rfl, fun d hd heq => ?_⟩,
      fun c hc => List.forall_mem_cons.2 ⟨fun heq => ?_, hold.distinct c hc⟩⟩
    · exact absurd (heq.symm.trans hproto) (hfresh d hd)
    · exact absurd (heq.trans hproto) (hfresh c hc)
  case instances =>
    intro i hi
    obtain ⟨hkind, hlink, c, hc, hclass⟩ := hold.instances i hi
    exact ⟨hkind, hlink, c, List.mem_cons_of_mem _ hc, hclass⟩

/-- **A new instance is linked** to its class. -/
theorem construct (hl : h.Linked cs is) (hcs : Declared cs) {c : ClassDeclaration} (hc : c ∈ cs) :
    (h.construct c.object).2.Linked cs (⟨(h.construct c.object).1, c.object⟩ :: is) := by
  have he : h.Extends (h.construct c.object).2 := h.extends_allocate _
  have hold := hl.of_extends hcs he
  have hobject : (h.construct c.object).2.object (h.construct c.object).1 =
      { kind := .ordinary, prototype := h.instancePrototype? c.object } := by
    rw [Heap.construct, object_allocate]
    exact if_pos rfl
  refine { hold with instances := List.forall_mem_cons.2 ⟨?_, hold.instances⟩ }
  rw [hobject, he.instancePrototype?_eq (hl.has_class hc)]
  exact ⟨rfl, rfl, c, hc, rfl⟩

/-! ## The chain of an instance -/

/-- **The chain from the object of a class** goes through those of its ancestors, nearest
first. -/
theorem walk (hl : h.Linked cs is) (hcs : Declared cs) (hc : c ∈ cs) :
    h.Walk (h.instancePrototype? c.object)
      ((ancestry cs c.object).filterMap fun d => h.instancePrototype? d.object) := by
  -- for the declarations up to any one of them, by induction on these
  suffices hall : ∀ ds ⊆ cs, Declared ds → ∀ c ∈ ds, h.Walk (h.instancePrototype? c.object)
      ((ancestry ds c.object).filterMap fun d => h.instancePrototype? d.object) from
    hall cs (List.Subset.refl cs) hcs c hc
  intro ds hds hdecl
  induction hdecl with
  | nil => exact fun c hc => nomatch hc
  | @cons x xs hnew hparent _ ih =>
    have hrest := ih (List.subset_of_cons_subset hds)
    intro c hc
    rcases List.mem_cons.1 hc with rfl | hc
    · obtain ⟨p, hp, -, hproto⟩ := hl.prototypes c (hds List.mem_cons_self)
      rw [ancestry_cons_self, List.filterMap_cons, hp]
      refine .step ?_
      rw [hproto]
      cases hid : c.parent with
      | none => exact .done
      | some id =>
        obtain ⟨d, hd, rfl⟩ := hparent id hid
        exact hrest d hd
    · rw [ancestry_cons_of_ne fun heq => hnew c hc heq.symm]
      exact hrest c hc

/-- The objects from which an instance inherits. -/
theorem chain_eq (hl : h.Linked cs is) (hcs : Declared cs) (hi : i ∈ is) (hc : c ∈ cs)
    (hclass : c.object = i.ofClass) :
    h.chain (h.object i.object).prototype =
      (ancestry cs c.object).filterMap fun d => h.instancePrototype? d.object := by
  have hw := hl.walk hcs hc
  obtain ⟨-, hproto, -⟩ := hl.instances i hi
  rw [hproto, ← hclass]
  refine hw.chainWithin_eq (length_le_size hw.nodup fun p hp => ?_)
  obtain ⟨d, hd, hdp⟩ := List.mem_filterMap.1 hp
  exact hl.has_prototype (hcs.ancestry_subset hc hd) hdp

/-! ## What an instance tells of its class -/

theorem classNames_eq (hl : h.Linked cs is) (hcs : Declared cs) (hi : i ∈ is) (hc : c ∈ cs)
    (hclass : c.object = i.ofClass) :
    h.classNames i.object = (ancestry cs c.object).map ClassDeclaration.name := by
  rw [classNames, hl.chain_eq hcs hi hc hclass, List.filterMap_filterMap, ← List.filterMap_eq_map]
  refine List.filterMap_congr fun d hd => ?_
  obtain ⟨p, hp, hname, -⟩ := hl.prototypes d (hcs.ancestry_subset hc hd)
  rw [hp, Option.bind_some, hname]
  rfl

theorem constructorName_eq (hl : h.Linked cs is) (hcs : Declared cs) (hi : i ∈ is) (hc : c ∈ cs)
    (hclass : c.object = i.ofClass) : h.constructorName i.object = c.name := by
  obtain ⟨hkind, -⟩ := hl.instances i hi
  simp only [constructorName, hkind, hl.classNames_eq hcs hi hc hclass, hcs.ancestry_eq hc,
    List.map_cons, List.head?_cons, Option.getD_some]

/-- The objects of two classes are different ones, whatever the names of these are. -/
theorem inheritsFrom_iff (hl : h.Linked cs is) (hcs : Declared cs) (hi : i ∈ is) (hc : c ∈ cs)
    (hclass : c.object = i.ofClass) {d : ClassDeclaration} (hd : d ∈ cs) :
    h.inheritsFrom i.object d.object = true ↔ d ∈ ancestry cs c.object := by
  obtain ⟨p, hp, -⟩ := hl.prototypes d hd
  simp only [inheritsFrom, hp, hl.chain_eq hcs hi hc hclass, List.contains_iff_mem,
    List.mem_filterMap]
  constructor
  · rintro ⟨e, he, hep⟩
    obtain rfl := hl.distinct e (hcs.ancestry_subset hc he) d hd (hep.trans hp.symm)
    exact he
  · exact fun hmem => ⟨d, hmem, hp⟩

end Linked

/-! ## Main result -/

theorem Hierarchy.declared_and_linked (hh : h.Hierarchy cs is) : Declared cs ∧ h.Linked cs is := by
  induction hh with
  | empty =>
    exact ⟨.nil, ⟨List.forall_mem_nil _, List.forall_mem_nil _, List.forall_mem_nil _,
      List.forall_mem_nil _⟩⟩
  | @declare h cs is _ name parent hparent ih =>
    obtain ⟨hcs, hl⟩ := ih
    refine ⟨.cons (fun d hd heq => ?_) hparent hcs, hl.declare hcs name hparent⟩
    have hold : d.object.index < h.objects.size := hl.has_class hd
    rw [heq, (h.of_newClass name parent).1] at hold
    exact Nat.not_succ_lt_self hold
  | construct _ hc ih => exact ⟨ih.1, ih.2.construct ih.1 hc⟩
  | other _ op hop ih => exact ⟨ih.1, ih.2.perform ih.1 hop⟩

/-- **Instances follow the hierarchy.** Let a program declare classes and construct
instances of them, and let it do whatever else it likes, but replace no link of the
hierarchy. Then an instance of a class is one of exactly the classes that are this class or
one of its ancestors: `instanceof` with such a class bound in the context is true, and false
with any other class, whatever names they have. The names of the classes of an instance are
those of its class and the ancestors of that, nearest first, and its constructor has the
name of its class. -/
theorem instances_follow_hierarchy (hh : h.Hierarchy cs is) {i : ClassInstance} (hi : i ∈ is) :
    ∃ c ∈ cs, c.object = i.ofClass ∧
      h.classNames i.object = (ancestry cs c.object).map ClassDeclaration.name ∧
      h.constructorName i.object = c.name ∧
      ∀ d ∈ cs,
        (h.inheritsFrom i.object d.object = true ↔ Relation.ReflTransGen (DirectlyExtends cs) c d) ∧
        ∀ (e : Expr) (s : Scope) (name : String) (h' : Heap),
          s.context.get? name = some (.object d.object) →
          e.eval s h = .ok (.object i.object, h') →
          (Expr.instanceOf e (.constructor name)).eval s h =
            .ok (.bool (h.inheritsFrom i.object d.object), h') := by
  obtain ⟨hcs, hl⟩ := hh.declared_and_linked
  obtain ⟨-, -, c, hc, hclass⟩ := hl.instances i hi
  refine ⟨c, hc, hclass, hl.classNames_eq hcs hi hc hclass, hl.constructorName_eq hcs hi hc hclass,
    fun d hd => ⟨?_, fun e s name h' hname he => ?_⟩⟩
  · rw [hl.inheritsFrom_iff hcs hi hc hclass hd, hcs.mem_ancestry_iff hc]
  · -- the operand may have added objects, which breaks no link
    have hl' := hl.of_extends hcs ((e.built_eval s).extends he)
    have hsame : h'.inheritsFrom i.object d.object = h.inheritsFrom i.object d.object := by
      rw [Bool.eq_iff_iff, hl'.inheritsFrom_iff hcs hi hc hclass hd,
        hl.inheritsFrom_iff hcs hi hc hclass hd]
    have htest : Collection.instanceOf h' s.context (.object i.object) (.constructor name) =
        .ok (h.inheritsFrom i.object d.object) := by
      simp only [Collection.instanceOf, hname, hl'.callable d hd, if_true, hsame]
    simp only [Expr.eval, bind, StateT.bind, Except.bind, he, Eval.reading, htest, Except.map]
    rfl

/-- Two classes of one name extend a third one, and an instance of the second of them gets
a property `prototype` of its own, which holds the object of the first. The instance is one of
the second class and of the third, and not of the first one. -/
theorem instances_follow_hierarchy_of_namesakes :
    let animal : ClassDeclaration := ⟨⟨1⟩, "Animal", none⟩
    let dog : ClassDeclaration := ⟨⟨3⟩, "Dog", some ⟨1⟩⟩
    let otherDog : ClassDeclaration := ⟨⟨5⟩, "Dog", some ⟨1⟩⟩
    let rex : ClassInstance := ⟨⟨6⟩, ⟨5⟩⟩
    let base : Heap := (Heap.empty.newClass "Animal" none).2
    let classes : Heap := ((base.newClass "Dog" (some ⟨1⟩)).2.newClass "Dog" (some ⟨1⟩)).2
    let h : Heap := (classes.construct ⟨5⟩).2.perform
      (.set ⟨6⟩ (.string "prototype") (.object ⟨2⟩))
    let context : Context := OrderedTable.ofList [("rex", .object ⟨6⟩), ("Dog", .object ⟨3⟩)]
    h.Hierarchy [otherDog, dog, animal] [rex] ∧
      h.classNames ⟨6⟩ = ["Dog", "Animal"] ∧ h.constructorName ⟨6⟩ = "Dog" ∧
      h.inheritsFrom ⟨6⟩ animal.object = true ∧
      (Expr.instanceOf (.reference (.variable "rex")) (.constructor "Dog")).evaluate context h =
        .ok (.bool false, h) := by
  intro animal dog otherDog rex base classes h context
  have hh : h.Hierarchy [otherDog, dog, animal] [rex] := by
    refine .other (.construct (c := otherDog) (.declare (.declare (.declare .empty "Animal" none ?_)
      "Dog" (some ⟨1⟩) ?_) "Dog" (some ⟨1⟩) ?_) List.mem_cons_self)
      (.set ⟨6⟩ (.string "prototype") (.object ⟨2⟩)) ?_
    · exact fun _ hid => nomatch hid
    · rintro id ⟨⟩
      exact ⟨animal, List.mem_cons_self, rfl⟩
    · rintro id ⟨⟩
      exact ⟨animal, List.mem_cons_of_mem _ List.mem_cons_self, rfl⟩
    · rintro ⟨-, c, hc, hid⟩
      simp at hc
      rcases hc with rfl | rfl | rfl <;> cases hid
  obtain ⟨c, hc, hclass, hnames, hname, hinstance⟩ :=
    instances_follow_hierarchy hh (i := rex) List.mem_cons_self
  obtain rfl : c = otherDog := by
    simp only [List.mem_cons, List.not_mem_nil, or_false] at hc
    rcases hc with rfl | rfl | rfl
    · rfl
    · cases hclass
    · cases hclass
  have hcs := hh.declared_and_linked.1
  have hanimal := (hinstance animal (by simp)).1
  have hdog := hinstance dog (by simp)
  rw [← hcs.mem_ancestry_iff hc] at hanimal
  have hnot : h.inheritsFrom ⟨6⟩ ⟨3⟩ = false := by
    rw [← Bool.not_eq_true, hdog.1, ← hcs.mem_ancestry_iff hc]
    decide
  refine ⟨hh, hnames, hname, hanimal.2 (by decide), ?_⟩
  have heval := hdog.2 (.reference (.variable "rex")) { context := context } "Dog" h rfl rfl
  rwa [hnot] at heval

end Heap

end ProbeEngine.Host
