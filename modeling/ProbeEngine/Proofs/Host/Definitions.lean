import ProbeEngine.Proofs.Host.Building

/-!
# Own properties as a history of definitions

The properties of an object are what a program defined on it, each key at the place of its
first definition with the property of its last one. Beside the heap that a program builds stands
what it did to it (`Recorded`): the symbols that it created and the definitions that it made, on
whatever objects, in order.

* `properties_perform` — a step writes its own definitions, and no others;
* `Recorded.properties_eq` — so the table of an object is the table of the definitions on it;
* `Recorded.same_iff` — two keys are one if they are the same text, the same predefined symbol,
  or symbols of the same creation, whatever these are called;
* `properties_are_last_definitions` — **what the object, and what its prototypes, answer for a
  key is the last definition of it** on the nearest object that has one.
-/

namespace ProbeEngine.Host

/-! ## Keys -/

/-- When two keys are the same: texts by what they say, predefined symbols by which they are,
and created ones by their creation. -/
def PropertyKey.Same : PropertyKey → PropertyKey → Prop
  | .string s, .string t => s = t
  | .symbol (.wellKnown w), .symbol (.wellKnown x) => w = x
  | .symbol (.unique m _), .symbol (.unique n _) => m = n
  | _, _ => False

/-- A key that a program can have which created some symbols. -/
def PropertyKey.IsAmong (symbols : List Symbol) : PropertyKey → Prop
  | .string _ => True
  | .symbol (.wellKnown _) => True
  | .symbol s => s ∈ symbols

instance (symbols : List Symbol) : (k : PropertyKey) → Decidable (k.IsAmong symbols)
  | .string _ => isTrue trivial
  | .symbol (.wellKnown _) => isTrue trivial
  | .symbol (.unique n d) => inferInstanceAs (Decidable (Symbol.unique n d ∈ symbols))

theorem PropertyKey.IsAmong.append {symbols : List Symbol} {k : PropertyKey}
    (hk : k.IsAmong symbols) (more : List Symbol) : k.IsAmong (symbols ++ more) := by
  match k with
  | .string _ => trivial
  | .symbol (.wellKnown _) => trivial
  | .symbol (.unique n d) => exact List.mem_append_left more hk

/-! ## Definitions -/

/-- A property that is defined: on which object, under which key, and what it is. -/
structure Definition where
  object : ObjectId
  key : PropertyKey
  property : Property

namespace Definition

/-- The entries that some definitions write into the table of an object. -/
def entriesOf (id : ObjectId) (ds : List Definition) : List (PropertyKey × Property) :=
  (ds.filter fun d => d.object = id).map fun d => (d.key, d.property)

/-- The keys that some definitions define on an object, in the order of their first definition. -/
def keysOf (id : ObjectId) (ds : List Definition) : List PropertyKey :=
  ((ds.filter fun d => d.object = id).map (·.key)).eraseDups

/-- The last definition of a key on an object. -/
def last? (id : ObjectId) (k : PropertyKey) (ds : List Definition) : Option Property :=
  ((ds.filter fun d => d.object = id ∧ d.key = k).getLast?).map (·.property)

theorem entriesOf_append (id : ObjectId) (ds ds' : List Definition) :
    entriesOf id (ds ++ ds') = entriesOf id ds ++ entriesOf id ds' := by
  rw [entriesOf, List.filter_append, List.map_append, entriesOf, entriesOf]

theorem entriesOf_singleton (d : Definition) (id : ObjectId) :
    entriesOf id [d] = if d.object = id then [(d.key, d.property)] else [] := by
  by_cases hid : d.object = id <;> simp [entriesOf, hid]

theorem map_fst_entriesOf (id : ObjectId) (ds : List Definition) :
    (entriesOf id ds).map (·.1) = (ds.filter fun d => d.object = id).map (·.key) := by
  rw [entriesOf, List.map_map]
  rfl

theorem lookup_reverse_entriesOf (id : ObjectId) (k : PropertyKey) (ds : List Definition) :
    OrderedTable.lookup k (entriesOf id ds).reverse = last? id k ds := by
  rw [last?, ← List.head?_reverse, ← List.filter_reverse, entriesOf, ← List.map_reverse,
    ← List.filter_reverse]
  induction ds.reverse with
  | nil => rfl
  | cons d ds ih =>
    by_cases hid : d.object = id
    · by_cases hk : d.key = k
      · simp [hid, hk, OrderedTable.lookup]
      · simp only [hid, hk, decide_true, List.filter_cons_of_pos, List.map_cons,
          OrderedTable.lookup, if_false, and_false, decide_false, Bool.false_eq_true,
          not_false_eq_true, List.filter_cons_of_neg, ih]
    · simp only [hid, decide_false, false_and, Bool.false_eq_true, not_false_eq_true,
        List.filter_cons_of_neg, ih]

theorem last?_eq_none_iff {id : ObjectId} {k : PropertyKey} {ds : List Definition} :
    last? id k ds = none ↔ ∀ d ∈ ds, d.object = id → d.key ≠ k := by
  simp [last?]

end Definition

namespace Heap

/-- The definitions that a step makes. -/
def definitions (h : Heap) : Operation → List Definition
  | .createError name message =>
    let e := (h.newError name message).1
    [⟨e, .string "message", .data (.string message)⟩,
      ⟨e, .string "stack", .data (.string (name ++ ": " ++ message))⟩]
  | .createClass name parent =>
    [⟨(h.newClass name parent).1, .string "prototype", .data (.object ⟨h.objects.size⟩)⟩]
  | .set id key v => [⟨id, key, .data v⟩]
  | .defineGetter id key getter => [⟨id, key, .accessor getter⟩]
  | _ => []

/-- The symbol that a step creates, if it creates one. -/
def createdSymbols (h : Heap) : Operation → List Symbol
  | .createSymbol description => [(h.newSymbol description).1]
  | _ => []

/-- A heap that a program built, with the symbols that it created and the definitions that it
made, in order. Each step is about objects that there are, under keys that the program has. -/
inductive Recorded : Heap → List Symbol → List Definition → Prop
  | empty : Recorded .empty [] []
  | perform {h : Heap} {symbols : List Symbol} {ds : List Definition} (hr : Recorded h symbols ds)
      (op : Operation) (hop : ∀ id ∈ op.objects, h.Has id)
      (hkeys : ∀ d ∈ h.definitions op, d.key.IsAmong symbols) :
      Recorded (h.perform op) (symbols ++ h.createdSymbols op) (ds ++ h.definitions op)

variable {h : Heap} {symbols : List Symbol} {ds : List Definition}

/-! ## What a step writes -/

theorem properties_allocate {o : HostObject} (ho : o.properties = .empty) (id : ObjectId) :
    ((h.allocate o).2.object id).properties = (h.object id).properties := by
  rw [object_allocate]
  split
  · rename_i hid
    have hnew : ¬ h.Has id := by
      rw [Has, hid]
      exact Nat.lt_irrefl _
    rw [object_of_not_has hnew, ho]
    rfl
  · rfl

theorem properties_define {d : Definition} (hd : h.Has d.object) (id : ObjectId) :
    ((h.define d.object d.key d.property).object id).properties =
      (h.object id).properties.putAll (Definition.entriesOf id [d]) := by
  rw [define, object_modify, Definition.entriesOf_singleton]
  by_cases hid : id = d.object
  · rw [if_pos ⟨hid, hd⟩, if_pos hid.symm]
    rfl
  · rw [if_neg fun hc => hid hc.1, if_neg fun hc => hid hc.symm]
    rfl

/-- **A step writes its own definitions.** The table of an object afterwards is the one before
with what the step defines on it, and with nothing else. -/
theorem properties_perform {op : Operation} (hop : ∀ id ∈ op.objects, h.Has id) (id : ObjectId) :
    ((h.perform op).object id).properties =
      (h.object id).properties.putAll (Definition.entriesOf id (h.definitions op)) := by
  cases op with
  | create kind => exact properties_allocate rfl id
  | createWithPrototype p => exact properties_allocate rfl id
  | construct c => exact properties_allocate rfl id
  | createSymbol description => rfl
  | createError name message =>
    let e : ObjectId := ⟨h.objects.size⟩
    have hnew : (h.allocateKind (.error name)).2.Has e := by
      rw [Has, allocateKind, size_allocate]
      exact Nat.lt_succ_self _
    have hkind : ((h.allocateKind (.error name)).2.object id).properties =
        (h.object id).properties := properties_allocate rfl id
    let m : Definition := ⟨e, .string "message", .data (.string message)⟩
    let t : Definition := ⟨e, .string "stack", .data (.string (name ++ ": " ++ message))⟩
    have hds : h.definitions (.createError name message) = [m] ++ [t] := rfl
    rw [hds, Definition.entriesOf_append, OrderedTable.putAll_append, ← hkind,
      ← properties_define (d := m) hnew id, ← properties_define (d := t) (has_define.2 hnew) id]
    rfl
  | createClass name parent =>
    let p : HostObject :=
      { kind := .ordinary, prototype := parent.bind h.instancePrototype?, className := some name }
    -- the function has some source, which none of its properties tells
    obtain ⟨c, hclass, hc⟩ : ∃ c : HostObject, (h.newClass name parent).2 =
        ((h.allocate p).2.allocate c).2.define (h.newClass name parent).1 (.string "prototype")
          (.data (.object ⟨h.objects.size⟩)) ∧ c.properties = .empty := ⟨_, rfl, rfl⟩
    have hnew : ((h.allocate p).2.allocate c).2.Has (h.newClass name parent).1 := by
      rw [Has, size_allocate]
      exact Nat.lt_succ_self _
    rw [← properties_allocate (h := h) (o := p) rfl id,
      ← properties_allocate (h := (h.allocate p).2) hc id, definitions,
      ← properties_define (d := ⟨(h.newClass name parent).1, _, _⟩) hnew id]
    exact congrArg (fun g : Heap => (g.object id).properties) hclass
  | set i key v => exact properties_define (d := ⟨i, key, .data v⟩) (hop i List.mem_cons_self) id
  | defineGetter i key getter =>
    exact properties_define (d := ⟨i, key, .accessor getter⟩) (hop i List.mem_cons_self) id
  | setPrototype i p =>
    rw [perform, setPrototype?]
    split
    · rfl
    · rw [Option.getD_some, object_modify]
      split <;> rfl

/-! ## What a step creates -/

theorem symbols_perform (h : Heap) (op : Operation) :
    (h.perform op).symbols = h.symbols + (h.createdSymbols op).length := by
  cases op with
  | setPrototype i p =>
    rw [perform, setPrototype?]
    split <;> rfl
  | _ => rfl

/-- A symbol has the number of the symbols that were created before it. -/
theorem exists_createdSymbol {op : Operation} {n : Nat} {s : Symbol}
    (hs : (h.createdSymbols op)[n]? = some s) : n = 0 ∧ ∃ d, s = .unique h.symbols d := by
  cases op with
  | createSymbol description =>
    rw [createdSymbols, List.getElem?_singleton] at hs
    split at hs
    · exact ⟨‹n = 0›, description, (Option.some.inj hs).symm⟩
    · cases hs
  | _ => cases hs

namespace Recorded

/-! ## What a program wrote -/

theorem reachable (hr : h.Recorded symbols ds) : h.Reachable := by
  induction hr with
  | empty => exact .empty
  | perform _ op hop _ ih => exact ih.perform op hop

/-- **The table of an object is that of the definitions on it.** -/
theorem properties_eq (hr : h.Recorded symbols ds) (id : ObjectId) :
    (h.object id).properties = .ofList (Definition.entriesOf id ds) := by
  induction hr with
  | empty => rfl
  | perform _ op hop _ ih =>
    rw [properties_perform hop, ih, Definition.entriesOf_append, OrderedTable.ofList,
      OrderedTable.ofList, OrderedTable.putAll_append]

/-- The symbols of a program are numbered by their creation. -/
theorem symbols_eq (hr : h.Recorded symbols ds) :
    symbols.length = h.symbols ∧
      ∀ (n : Nat) (s : Symbol), symbols[n]? = some s → ∃ d, s = .unique n d := by
  induction hr with
  | empty => exact ⟨rfl, fun _ _ hs => nomatch hs⟩
  | @perform h symbols ds _ op _ _ ih =>
    obtain ⟨hlength, hnumbers⟩ := ih
    refine ⟨by rw [List.length_append, hlength, symbols_perform], fun n s hs => ?_⟩
    rcases Nat.lt_or_ge n symbols.length with hn | hn
    · rw [List.getElem?_append_left hn] at hs
      exact hnumbers n s hs
    · rw [List.getElem?_append_right hn] at hs
      obtain ⟨hzero, d, rfl⟩ := exists_createdSymbol hs
      exact ⟨d, by rw [← hlength, Nat.le_antisymm (Nat.sub_eq_zero_iff_le.1 hzero) hn]⟩

/-- What is defined is under keys that the program has. -/
theorem isAmong_of_mem (hr : h.Recorded symbols ds) {d : Definition} (hd : d ∈ ds) :
    d.key.IsAmong symbols := by
  induction hr with
  | empty => cases hd
  | perform _ op _ hkeys ih =>
    rcases List.mem_append.1 hd with hd | hd
    · exact (ih hd).append _
    · exact (hkeys d hd).append _

/-- **Keys are told apart by what they are, not by how they are called.** -/
theorem same_iff (hr : h.Recorded symbols ds) {k k' : PropertyKey} (hk : k.IsAmong symbols)
    (hk' : k'.IsAmong symbols) : k = k' ↔ k.Same k' := by
  match k, k' with
  | .string s, .string t => exact PropertyKey.string.injEq s t ▸ Iff.rfl
  | .string _, .symbol _ => exact iff_of_false (fun h => nomatch h) id
  | .symbol _, .string _ => exact iff_of_false (fun h => nomatch h) (by simp [PropertyKey.Same])
  | .symbol (.wellKnown w), .symbol (.wellKnown x) => simp [PropertyKey.Same]
  | .symbol (.wellKnown _), .symbol (.unique _ _) => simp [PropertyKey.Same]
  | .symbol (.unique _ _), .symbol (.wellKnown _) => simp [PropertyKey.Same]
  | .symbol (.unique m d), .symbol (.unique n e) =>
    refine ⟨fun heq => ?_, fun hmn => ?_⟩
    · exact (Symbol.unique.inj (PropertyKey.symbol.inj heq)).1
    · -- each of the two is the symbol of its creation
      have hnumber : ∀ (m : Nat) (d : Option String), Symbol.unique m d ∈ symbols →
          symbols[m]? = some (.unique m d) := by
        intro m d hmem
        obtain ⟨i, hi⟩ := List.mem_iff_getElem?.1 hmem
        obtain ⟨_, heq⟩ := hr.symbols_eq.2 i _ hi
        obtain ⟨rfl, -⟩ := Symbol.unique.inj heq
        exact hi
      obtain rfl : m = n := hmn
      have heq := (hnumber m d hk).symm.trans (hnumber m e hk')
      exact congrArg PropertyKey.symbol (Option.some.inj heq)

/-! ## What an object answers -/

theorem ownKeys_eq (hr : h.Recorded symbols ds) (id : ObjectId) :
    h.ownKeys id = Definition.keysOf id ds := by
  rw [ownKeys, hr.properties_eq, OrderedTable.keys_ofList, Definition.map_fst_entriesOf,
    Definition.keysOf]

theorem ownProperty?_eq (hr : h.Recorded symbols ds) (id : ObjectId) (k : PropertyKey) :
    h.ownProperty? id k = Definition.last? id k ds := by
  rw [ownProperty?, hr.properties_eq, OrderedTable.get?_ofList, Definition.lookup_reverse_entriesOf]

theorem isAmong_of_mem_ownKeys (hr : h.Recorded symbols ds) {id : ObjectId} {k : PropertyKey}
    (hk : k ∈ h.ownKeys id) : k.IsAmong symbols := by
  rw [hr.ownKeys_eq, Definition.keysOf, List.mem_eraseDups, List.mem_map] at hk
  obtain ⟨d, hd, rfl⟩ := hk
  exact hr.isAmong_of_mem (List.mem_filter.1 hd).1

end Recorded

/-- The own properties under texts are those of the keys that are texts. -/
theorem Orderly.ownStringProperties_eq (hh : h.Orderly) (id : ObjectId) :
    h.ownStringProperties id = (h.ownKeys id).filterMap fun k =>
      k.string?.bind fun s => (h.ownProperty? id k).map fun p => (s, p) := by
  rw [ownStringProperties, ownKeys, OrderedTable.keys, List.filterMap_map]
  refine List.filterMap_congr fun e he => ?_
  have hfound : h.ownProperty? id e.1 = some e.2 := OrderedTable.get?_of_mem (hh.keys id) he
  rw [Function.comp_apply, hfound]
  cases e.1.string? <;> rfl

theorem ownStringKeyCount_eq (h : Heap) (id : ObjectId) :
    h.ownStringKeyCount id = (h.ownStringProperties id).length := by
  rw [ownStringKeyCount, ownStringProperties, ownKeys, OrderedTable.keys]
  induction (h.object id).properties.entries with
  | nil => rfl
  | cons e es ih =>
    rw [List.map_cons, List.filter_cons, List.filterMap_cons]
    cases e.1.string? with
    | none => exact ih
    | some s => exact congrArg Nat.succ ih

/-! ## Main result -/

/-- What the objects of a heap answer, told from the definitions that were made. -/
structure AnswersDefinitions (h : Heap) (symbols : List Symbol) (ds : List Definition) :
    Prop where
  /-- Two keys are equal exactly if they are the same text, predefined symbol or creation. -/
  same_iff : ∀ k k' : PropertyKey, k.IsAmong symbols → k'.IsAmong symbols → (k = k' ↔ k.Same k')
  creations : ∀ (n : Nat) (s : Symbol), symbols[n]? = some s → ∃ d, s = .unique n d
  isAmong : ∀ id, ∀ k ∈ h.ownKeys id, k.IsAmong symbols
  distinct : ∀ id, (h.ownKeys id).Pairwise fun k k' => ¬ k.Same k'
  /-- The keys are in the order of their first definition. -/
  ownKeys : ∀ id, h.ownKeys id = Definition.keysOf id ds
  ownProperty? : ∀ id k, h.ownProperty? id k = Definition.last? id k ds
  ownStringProperties : ∀ id, h.ownStringProperties id =
    (Definition.keysOf id ds).filterMap fun k =>
      k.string?.bind fun s => (Definition.last? id k ds).map fun p => (s, p)
  ownStringKeyCount : ∀ id, h.ownStringKeyCount id = (h.ownStringProperties id).length
  /-- The property that is found is the last definition on the nearest object that has one. -/
  findProperty? : ∀ id k p, h.Has id →
    (h.findProperty? id k = some p ↔ ∃ before o after, h.Walk (some id) (before ++ o :: after) ∧
      (∀ i ∈ before, ∀ d ∈ ds, d.object = i → d.key ≠ k) ∧ Definition.last? o k ds = some p)
  /-- Nothing is found exactly if no object of the chain has a definition. -/
  missing : ∀ id k, h.Has id → (h.findProperty? id k = none ↔
    ∃ ids, h.Walk (some id) ids ∧ ∀ i ∈ ids, ∀ d ∈ ds, d.object = i → d.key ≠ k)
  /-- What an object defines itself, be it a value or a getter, hides what it inherits. -/
  hides : ∀ id k p, h.Has id → Definition.last? id k ds = some p → h.findProperty? id k = some p

/-- **Own properties are a table in which the last definition wins.** Let a program make objects,
define properties on them, as values or by getters, and link them by prototypes in any order.
Then the own keys of an object are distinct and in the order of their first definition, its own
property of a key is the last one that was defined, its properties under texts are those of the
keys that are texts, and what is found along its prototypes is the last definition on the
nearest object that has one. -/
theorem properties_are_last_definitions (hr : h.Recorded symbols ds) :
    h.AnswersDefinitions symbols ds := by
  have hh := hr.reachable.orderly
  have hfind : ∀ id k, h.Has id → ∃ ids, h.Walk (some id) ids ∧
      h.findProperty? id k = ids.findSome? fun o => Definition.last? o k ds := by
    intro id k hid
    obtain ⟨ids, hw⟩ := exists_walk hh.acyclic (some id)
    have hstart : ∀ o, some id = some o → h.Has o := fun o ho => Option.some.inj ho ▸ hid
    refine ⟨ids, hw, ?_⟩
    simp only [Heap.findProperty?, hw.chain_eq hh.prototypes hstart, hr.ownProperty?_eq]
  have hfound : ∀ id k p, h.Has id → (h.findProperty? id k = some p ↔
      ∃ before o after, h.Walk (some id) (before ++ o :: after) ∧
        (∀ i ∈ before, ∀ d ∈ ds, d.object = i → d.key ≠ k) ∧ Definition.last? o k ds = some p) := by
    intro id k p hid
    obtain ⟨ids, hw, hids⟩ := hfind id k hid
    rw [hids, List.findSome?_eq_some_iff]
    constructor
    · rintro ⟨before, o, after, rfl, ho, hbefore⟩
      exact ⟨before, o, after, hw, fun i hi => Definition.last?_eq_none_iff.1 (hbefore i hi), ho⟩
    · rintro ⟨before, o, after, hw', hbefore, ho⟩
      exact ⟨before, o, after, hw.unique hw', ho,
        fun i hi => Definition.last?_eq_none_iff.2 (hbefore i hi)⟩
  refine
    { same_iff := fun k k' hk hk' => hr.same_iff hk hk'
      creations := hr.symbols_eq.2
      isAmong := fun id k => hr.isAmong_of_mem_ownKeys
      distinct := fun id => ?_
      ownKeys := hr.ownKeys_eq
      ownProperty? := hr.ownProperty?_eq
      ownStringProperties := fun id => ?_
      ownStringKeyCount := h.ownStringKeyCount_eq
      findProperty? := hfound
      missing := fun id k hid => ?_
      hides := fun id k p hid hp => ?_ }
  · refine (hh.keys id).imp_of_mem fun hk hk' hne hsame => hne ?_
    exact (hr.same_iff (hr.isAmong_of_mem_ownKeys hk) (hr.isAmong_of_mem_ownKeys hk')).2 hsame
  · simp only [hh.ownStringProperties_eq, hr.ownKeys_eq, hr.ownProperty?_eq]
  · obtain ⟨ids, hw, hids⟩ := hfind id k hid
    rw [hids, List.findSome?_eq_none_iff]
    constructor
    · exact fun hnone => ⟨ids, hw, fun i hi => Definition.last?_eq_none_iff.1 (hnone i hi)⟩
    · rintro ⟨ids', hw', hnone⟩ i hi
      exact Definition.last?_eq_none_iff.2 (hnone i (hw.unique hw' ▸ hi))
  · obtain ⟨ids, hw⟩ := exists_walk hh.acyclic (h.object id).prototype
    exact (hfound id k p hid).2 ⟨[], id, ids, .step hw, List.forall_mem_nil _, hp⟩

/-- An object that inherits from another one, and two symbols of one name. The first of its keys
becomes a getter and keeps its place, its value `x` hides the getter that it inherits, and its
getter `y` hides the value. -/
theorem properties_are_last_definitions_of_namesakes :
    let base : ObjectId := ⟨0⟩
    let derived : ObjectId := ⟨1⟩
    let tag : Symbol := .unique 0 (some "tag")
    let otherTag : Symbol := .unique 1 (some "tag")
    let ops : List Operation :=
      [.createSymbol (some "tag"), .createSymbol (some "tag"), .create .ordinary,
        .createWithPrototype base, .defineGetter base (.string "x") 7,
        .set derived (.symbol tag) .null, .set derived (.string "x") (.bool true),
        .set derived (.symbol otherTag) .undefined, .defineGetter derived (.symbol tag) 8,
        .set base (.string "y") .null, .defineGetter derived (.string "y") 9]
    let ds : List Definition :=
      [⟨base, .string "x", .accessor 7⟩, ⟨derived, .symbol tag, .data .null⟩,
        ⟨derived, .string "x", .data (.bool true)⟩, ⟨derived, .symbol otherTag, .data .undefined⟩,
        ⟨derived, .symbol tag, .accessor 8⟩, ⟨base, .string "y", .data .null⟩,
        ⟨derived, .string "y", .accessor 9⟩]
    let h := ops.foldl perform .empty
    h.Recorded [tag, otherTag] ds ∧
      h.ownKeys derived = [.symbol tag, .string "x", .symbol otherTag, .string "y"] ∧
      h.ownProperty? derived (.symbol tag) = some (.accessor 8) ∧
      h.ownStringProperties derived = [("x", .data (.bool true)), ("y", .accessor 9)] ∧
      h.ownStringKeyCount derived = 2 ∧
      h.findProperty? derived (.string "x") = some (.data (.bool true)) ∧
      h.findProperty? derived (.string "y") = some (.accessor 9) ∧
      h.findProperty? base (.string "x") = some (.accessor 7) := by
  intro base derived tag otherTag ops ds h
  have hr : h.Recorded [tag, otherTag] ds := by
    have hprogram := Recorded.empty
    replace hprogram := hprogram.perform (.createSymbol (some "tag")) (by decide) (by decide)
    replace hprogram := hprogram.perform (.createSymbol (some "tag")) (by decide) (by decide)
    replace hprogram := hprogram.perform (.create .ordinary) (by decide) (by decide)
    replace hprogram := hprogram.perform (.createWithPrototype base) (by decide) (by decide)
    replace hprogram :=
      hprogram.perform (.defineGetter base (.string "x") 7) (by decide) (by decide)
    replace hprogram := hprogram.perform (.set derived (.symbol tag) .null) (by decide) (by decide)
    replace hprogram :=
      hprogram.perform (.set derived (.string "x") (.bool true)) (by decide) (by decide)
    replace hprogram :=
      hprogram.perform (.set derived (.symbol otherTag) .undefined) (by decide) (by decide)
    replace hprogram :=
      hprogram.perform (.defineGetter derived (.symbol tag) 8) (by decide) (by decide)
    replace hprogram := hprogram.perform (.set base (.string "y") .null) (by decide) (by decide)
    exact hprogram.perform (.defineGetter derived (.string "y") 9) (by decide) (by decide)
  have hanswers := properties_are_last_definitions hr
  have hkeys : h.ownKeys derived = [.symbol tag, .string "x", .symbol otherTag, .string "y"] :=
    hanswers.ownKeys derived
  have hstrings : h.ownStringProperties derived = [("x", .data (.bool true)), ("y", .accessor 9)] :=
    hanswers.ownStringProperties derived
  refine ⟨hr, hkeys, hanswers.ownProperty? derived (.symbol tag), hstrings, ?_,
    hanswers.hides derived _ _ (by decide) rfl, hanswers.hides derived _ _ (by decide) rfl,
    hanswers.hides base _ _ (by decide) rfl⟩
  rw [hanswers.ownStringKeyCount, hstrings]
  rfl

end Heap

end ProbeEngine.Host
