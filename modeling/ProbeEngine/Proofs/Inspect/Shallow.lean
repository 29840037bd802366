import ProbeEngine.Inspect
import ProbeEngine.Proofs.Host.Building

/-!
# How far a rendering looks

The text of a value shows its members, and of an object among these a tag. The tag may tell the
name of a function or a class and the words for an error, so it depends on the kinds, the
prototypes and the class names of objects, and on the properties of errors, but on no other
properties.

* `AgreesOutside` — two heaps that differ in own properties of some objects alone;
* `AgreesOutside.renderNested_eq` — a tag is the same in both, if no error is among these
  objects or inherits from one of them;
* `showsFirst_iff` — a list of members is cut after so many, with a note on the others, in one
  way only;
* `inspect_is_shallow` — both together, for the text of any value.
-/

namespace ProbeEngine

open Host (Value Heap Kind PropertyKey Property ObjectId ObjectKind)

/-! ## Heaps that differ in properties -/

namespace Host.Heap

/-- Two heaps with the same objects, but for the own properties of some of them. -/
structure AgreesOutside (changed : ObjectId → Prop) (h h' : Heap) : Prop where
  size : h'.objects.size = h.objects.size
  object : ∀ id, ∃ ps, h'.object id = { h.object id with properties := ps }
  unchanged : ∀ id, ¬ changed id → h'.object id = h.object id

namespace AgreesOutside

variable {changed : ObjectId → Prop} {h h' h'' : Heap}

theorem refl (changed : ObjectId → Prop) (h : Heap) : AgreesOutside changed h h :=
  ⟨rfl, fun id => ⟨(h.object id).properties, rfl⟩, fun _ _ => rfl⟩

/-- A property that is written on one of the objects is one more difference. -/
theorem define (ha : AgreesOutside changed h h') {id : ObjectId} (hid : changed id)
    (key : PropertyKey) (p : Property) : AgreesOutside changed h (h'.define id key p) where
  size := (size_modify _ _ _).trans ha.size
  object i := by
    obtain ⟨ps, hps⟩ := ha.object i
    rw [Heap.define, object_modify]
    split
    · rw [hps]
      exact ⟨ps.put key p, rfl⟩
    · exact ⟨ps, hps⟩
  unchanged i hi := by
    have hne : i ≠ id := fun heq => hi (heq ▸ hid)
    rw [Heap.define, object_modify, if_neg fun hc => hne hc.1]
    exact ha.unchanged i hi

theorem kind_object_eq (ha : AgreesOutside changed h h') (id : ObjectId) :
    (h'.object id).kind = (h.object id).kind := by
  obtain ⟨ps, hps⟩ := ha.object id
  rw [hps]

theorem prototype_eq (ha : AgreesOutside changed h h') (id : ObjectId) :
    (h'.object id).prototype = (h.object id).prototype := by
  obtain ⟨ps, hps⟩ := ha.object id
  rw [hps]

theorem className_eq (ha : AgreesOutside changed h h') (id : ObjectId) :
    (h'.object id).className = (h.object id).className := by
  obtain ⟨ps, hps⟩ := ha.object id
  rw [hps]

theorem kind_eq (ha : AgreesOutside changed h h') (v : Value) : h'.kind v = h.kind v := by
  cases v with
  | object id => rw [kind, kind, ha.kind_object_eq]
  | _ => rfl

theorem chain_eq (ha : AgreesOutside changed h h') (start : Option ObjectId) :
    h'.chain start = h.chain start := by
  have hwithin : ∀ (n : Nat) (start : Option ObjectId),
      h'.chainWithin n start = h.chainWithin n start := by
    intro n
    induction n with
    | zero => exact fun _ => rfl
    | succ n ih =>
      intro start
      cases start with
      | none => rfl
      | some id => rw [chainWithin, chainWithin, ha.prototype_eq, ih]
  rw [chain, chain, ha.size, hwithin]

theorem constructorName_eq (ha : AgreesOutside changed h h') (id : ObjectId) :
    h'.constructorName id = h.constructorName id := by
  have hnames : h'.classNames id = h.classNames id := by
    simp only [classNames, ha.prototype_eq, ha.chain_eq, ha.className_eq]
  rw [constructorName, constructorName, ha.kind_object_eq, hnames]

theorem display_eq (ha : AgreesOutside changed h h') (v : Value) : h'.display v = h.display v := by
  cases v with
  | object id => rw [display, display, ha.constructorName_eq]
  | _ => rfl

/-- A property is found alike if the objects on the way have what they had. -/
theorem dataProperty?_eq (ha : AgreesOutside changed h h') {v : Value}
    (hv : ∀ id, v = .object id → ∀ o ∈ h.chain (some id), ¬ changed o) (key : String) :
    h'.dataProperty? v key = h.dataProperty? v key := by
  cases v with
  | object id =>
    have hon : ∀ os : List ObjectId, (∀ o ∈ os, ¬ changed o) →
        (os.findSome? fun o => h'.ownProperty? o (.string key)) =
          os.findSome? fun o => h.ownProperty? o (.string key) := by
      intro os hos
      induction os with
      | nil => rfl
      | cons o os ih =>
        rw [List.findSome?_cons, List.findSome?_cons, ih (List.forall_mem_cons.1 hos).2,
          ownProperty?, ownProperty?, ha.unchanged o (List.forall_mem_cons.1 hos).1]
    rw [dataProperty?, dataProperty?, findProperty?, findProperty?, ha.chain_eq, hon _ (hv id rfl)]
  | _ => rfl

/-- The words for a value are the same, if it is no error whose properties may differ. -/
theorem describeThrown_eq (ha : AgreesOutside changed h h') {v : Value}
    (hv : ∀ id name, v = .object id → h.kind v = .error name →
      ∀ o ∈ h.chain (some id), ¬ changed o) : h'.describeThrown v = h.describeThrown v := by
  rw [describeThrown, describeThrown, ha.kind_eq]
  split
  · rename_i name hname
    have hmessage := ha.dataProperty?_eq (fun id hid => hv id name hid hname) "message"
    have hdisplay : h'.display = h.display := funext ha.display_eq
    rw [messageText, messageText, hmessage, hdisplay]
  · exact ha.display_eq v

end AgreesOutside

end Host.Heap

namespace Inspect

variable {changed : ObjectId → Prop} {h h' : Heap} {limits : CaptureLimits} {v : Value}

/-! ## Tags -/

/-- Some objects are no errors, and no error inherits from one of them. -/
def SparesErrors (changed : ObjectId → Prop) (h : Heap) : Prop :=
  ∀ e name, (h.object e).kind = .error name → ∀ o ∈ h.chain (some e), ¬ changed o

theorem SparesErrors.of_kind (hc : SparesErrors changed h) {id : ObjectId} {name : String}
    (hid : h.kind (.object id) = .error name) : ∀ o ∈ h.chain (some id), ¬ changed o := by
  have hkind : (h.object id).kind.kind = .error name := hid
  cases hobject : (h.object id).kind with
  | error e => exact hc id e hobject
  | function f =>
    rw [hobject, ObjectKind.kind] at hkind
    split at hkind <;> cases hkind
  | _ =>
    rw [hobject] at hkind
    cases hkind

/-- **A tag does not look at properties**, those of errors apart. -/
theorem renderNested_eq (ha : Heap.AgreesOutside changed h h') (hc : SparesErrors changed h)
    (limits : CaptureLimits) (v : Value) : renderNested h' limits v = renderNested h limits v := by
  have hthrown : h'.describeThrown v = h.describeThrown v :=
    ha.describeThrown_eq fun id name hid hname => hc.of_kind (hid ▸ hname)
  cases v with
  | object id =>
    unfold renderNested
    rw [ha.kind_eq, hthrown]
    simp only [ha.constructorName_eq]
  | _ => rfl

theorem renderProperty_eq (ha : Heap.AgreesOutside changed h h') (hc : SparesErrors changed h)
    (limits : CaptureLimits) (p : Property) :
    renderProperty h' limits p = renderProperty h limits p := by
  cases p with
  | data v => exact renderNested_eq ha hc limits v
  | accessor g => rfl

/-- The text of a value looks at the properties of that value, and of errors, alone. -/
theorem inspect_eq (ha : Heap.AgreesOutside changed h h') (hc : SparesErrors changed h)
    (hroot : ∀ id, v = .object id → ¬ changed id) (limits : CaptureLimits) :
    inspect h' limits v = inspect h limits v := by
  have hnested : renderNested h' limits = renderNested h limits :=
    funext (renderNested_eq ha hc limits)
  have hproperty : renderProperty h' limits = renderProperty h limits :=
    funext (renderProperty_eq ha hc limits)
  have hthrown : h'.describeThrown v = h.describeThrown v :=
    ha.describeThrown_eq fun id name hid hname => hc.of_kind (hid ▸ hname)
  unfold inspect
  rw [ha.kind_eq]
  split
  · rename_i name hname
    have hstack : h'.dataProperty? v "stack" = h.dataProperty? v "stack" :=
      ha.dataProperty?_eq (fun id hid => hc.of_kind (hid ▸ hname)) "stack"
    rw [renderError, renderError, hstack, hthrown]
  · rfl
  · rw [renderList, renderList, hnested]
  · rw [renderList, renderList, hnested]
  · rw [renderList, renderList, hnested]
  · rw [renderMap, renderMap, hnested]
  · cases v with
    | object id =>
      simp only [renderObject, ha.unchanged id (hroot id rfl), ha.constructorName_eq, hproperty]
    | _ => rfl
  · rw [hnested]

/-! ## Members -/

/-- A list of members in a text: what stands in front of it and around it, the texts of all
members, how many of them are shown at most, and the word for them. -/
structure Listing where
  lead : String
  start : String
  finish : String
  word : String
  limit : Nat
  members : List String

namespace Listing

/-- The parts of a listing are its first members in order, as many as there may be, and after
them a note with the number of the others if there are any. -/
structure ShowsFirst (l : Listing) (parts : List String) : Prop where
  members : ∀ i < min l.members.length l.limit, parts[i]? = l.members[i]?
  note : l.limit < l.members.length → parts[l.limit]? =
    some ("... " ++ toString (l.members.length - l.limit) ++ " more " ++ l.word)
  length : parts.length =
    min l.members.length l.limit + if l.limit < l.members.length then 1 else 0

variable {l : Listing} {parts : List String}

theorem showsFirst_withRemainder (l : Listing) :
    l.ShowsFirst (withRemainder l.limit l.word l.members) where
  members i hi := by
    have hlimit : i < l.limit := Nat.lt_of_lt_of_le hi (Nat.min_le_right _ _)
    rw [withRemainder, List.getElem?_append_left (by rw [List.length_take, Nat.min_comm]; exact hi),
      List.getElem?_take_of_lt hlimit]
  note hlt := by
    have htake : (l.members.take l.limit).length = l.limit := by
      rw [List.length_take, Nat.min_eq_left (Nat.le_of_lt hlt)]
    rw [withRemainder, if_pos hlt, List.getElem?_append_right (Nat.le_of_eq htake), htake,
      Nat.sub_self]
    rfl
  length := by
    rw [withRemainder, List.length_append, List.length_take, Nat.min_comm]
    split <;> rfl

/-- **There is one way to show the first members.** -/
theorem showsFirst_iff : l.ShowsFirst parts ↔ parts = withRemainder l.limit l.word l.members := by
  refine ⟨fun hparts => ?_, fun heq => heq ▸ showsFirst_withRemainder l⟩
  have hfirst := showsFirst_withRemainder l
  refine List.ext_getElem? fun i => ?_
  by_cases hi : i < min l.members.length l.limit
  · rw [hparts.members i hi, hfirst.members i hi]
  · by_cases hnote : l.limit < l.members.length ∧ i = l.limit
    · obtain ⟨hmore, rfl⟩ := hnote
      rw [hparts.note hmore, hfirst.note hmore]
    · have hend : min l.members.length l.limit + (if l.limit < l.members.length then 1 else 0) ≤
          i := by
        split <;> omega
      rw [List.getElem?_eq_none (hparts.length ▸ hend),
        List.getElem?_eq_none (hfirst.length ▸ hend)]

end Listing

/-- The values whose members are listed, and the listing of each: the items of arrays and sets,
the entries of maps and the own properties of plain objects, in their order. -/
inductive Lists (h : Heap) (limits : CaptureLimits) : Value → Listing → Prop
  | array {v : Value} {xs : List Value} (hv : h.kind v = .array xs) :
      Lists h limits v
        { lead := "", start := "[", finish := "]", word := "items"
          limit := limits.maxCollectionSize
          members := xs.map (renderNested h limits) }
  | typedArray {v : Value} {t : Host.ElementType} {xs : List Value}
      (hv : h.kind v = .typedArray t xs) :
      Lists h limits v
        { lead := t.arrayName ++ "(" ++ toString xs.length ++ ") ", start := "[", finish := "]"
          word := "items", limit := limits.maxCollectionSize
          members := xs.map (renderNested h limits) }
  | set {v : Value} {xs : List Value} (hv : h.kind v = .set xs) :
      Lists h limits v
        { lead := "Set(" ++ toString xs.length ++ ") ", start := "\x7b", finish := "\x7d"
          word := "items", limit := limits.maxCollectionSize
          members := xs.map (renderNested h limits) }
  | map {v : Value} {es : List (Value × Value)} (hv : h.kind v = .map es) :
      Lists h limits v
        { lead := "Map(" ++ toString es.length ++ ") ", start := "\x7b", finish := "\x7d"
          word := "items", limit := limits.maxCollectionSize
          members := es.map fun e =>
            renderNested h limits e.1 ++ " => " ++ renderNested h limits e.2 }
  | object {id : ObjectId} (hid : h.kind (.object id) = .object) :
      Lists h limits (.object id)
        { lead := if h.constructorName id = "Object" then "" else h.constructorName id ++ " "
          start := "\x7b", finish := "\x7d", word := "properties", limit := limits.maxFieldCount
          members := (h.object id).properties.entries.map fun e =>
            renderKey e.1 ++ ": " ++ renderProperty h limits e.2 }

theorem Lists.inspect_eq {l : Listing} (hl : Lists h limits v l) :
    inspect h limits v =
      surround l.lead l.start (withRemainder l.limit l.word l.members) l.finish := by
  cases hl with
  | array hv =>
    unfold inspect
    rw [hv]
    rfl
  | typedArray hv =>
    unfold inspect
    rw [hv]
    rfl
  | set hv =>
    unfold inspect
    rw [hv]
    rfl
  | map hv =>
    unfold inspect
    rw [hv]
    rfl
  | object hid =>
    unfold inspect
    rw [hid]
    rfl

/-! ## Main result -/

/-- **A rendering is shallow.** Let two heaps differ in nothing but own properties of objects,
none of which is the value itself, an error, or what an error inherits from. Then the text of
the value is the same in both, however it and these objects hold each other. And where members
are listed, the text shows the first of them in order, as many as the limit allows, and then a
note with the number of the others exactly if there are more. -/
theorem inspect_is_shallow (h : Heap) (limits : CaptureLimits) (v : Value) :
    (∀ (changed : ObjectId → Prop) (h' : Heap), Heap.AgreesOutside changed h h' →
      (∀ id, v = .object id → ¬ changed id) → SparesErrors changed h →
        inspect h' limits v = inspect h limits v) ∧
    ∀ l, Lists h limits v l →
      ∃ parts, (∀ parts', l.ShowsFirst parts' ↔ parts' = parts) ∧
        inspect h limits v = surround l.lead l.start parts l.finish :=
  ⟨fun _ _ ha hroot hc => inspect_eq ha hc hroot limits,
    fun _ hl => ⟨_, fun _ => Listing.showsFirst_iff, hl.inspect_eq⟩⟩

/-- An object that holds itself, an empty object, an error and one thing more than may be shown.
The text is the same after the empty object has got a property that leads back, and another one
by a getter. -/
theorem inspect_is_shallow_of_cycle :
    let root : ObjectId := ⟨0⟩
    let inner : ObjectId := ⟨1⟩
    let message : OrderedTable PropertyKey Property :=
      ⟨[(.string "message", .data (.string "m"))]⟩
    let properties : OrderedTable PropertyKey Property :=
      ⟨[(.string "self", .data (.object root)), (.string "the inner", .data (.object inner)),
        (.string "error", .data (.object ⟨2⟩)), (.string "more", .data .null)]⟩
    let h : Heap :=
      { objects := #[{ kind := .ordinary, properties := properties }, { kind := .ordinary },
          { kind := .error "E", properties := message }] }
    let h' : Heap := (h.define inner (.string "root") (.data (.object root))).define inner
      (.string "x") (.accessor 0)
    let limits : CaptureLimits := { maxFieldCount := 3 }
    let text :=
      "\x7b self: [Object], 'the inner': [Object], error: [E: m], ... 1 more properties \x7d"
    Heap.AgreesOutside (· = inner) h h' ∧ SparesErrors (· = inner) h ∧
      inspect h limits (.object root) = text ∧ inspect h' limits (.object root) = text := by
  intro root inner message properties h h' limits text
  have hself : Heap.AgreesOutside (· = inner) h h := .refl _ h
  have ha : Heap.AgreesOutside (· = inner) h h' :=
    (hself.define rfl _ _).define rfl _ _
  have hc : SparesErrors (· = inner) h := by
    intro e name he o ho
    match e with
    | ⟨0⟩ => cases he
    | ⟨1⟩ => cases he
    | ⟨2⟩ =>
      have hchain : o ∈ [(⟨2⟩ : ObjectId)] := ho
      rw [List.mem_singleton.1 hchain]
      decide
    | ⟨n + 3⟩ => cases he
  obtain ⟨hsame, hlists⟩ := inspect_is_shallow h limits (.object root)
  obtain ⟨parts, hparts, htext⟩ := hlists _ (.object rfl)
  have hroot : ∀ id, Value.object root = .object id → ¬ id = inner := by
    rintro id ⟨⟩
    decide
  have hshown : inspect h limits (.object root) = text := by
    rw [htext, ← (hparts _).1 (Listing.showsFirst_withRemainder _)]
    decide +kernel
  exact ⟨ha, hc, hshown, (hsame _ h' ha hroot hc).trans hshown⟩

end Inspect

end ProbeEngine
