import ProbeEngine.Capture.Basic

/-!
# What one level of a capture does

`CapturesAs` says what capturing a value at a depth gives, and how many getters ran
before and after. What that can be depends on the sort of the value (`Outcome`): one
that is no nested value is captured as it is at every depth, a nested one by its type
where no level remains, and else by its parts, one after the other (`InTurn`), each
captured one level deeper. Every capture has one of these outcomes
(`CapturesAs.outcome`), and what is said of all captures is said outcome by outcome.
-/

namespace ProbeEngine

open Host (Value Heap Kind PropertyKey Property ObjectId Getters Counting)

/-! ## One after the other -/

/-- The items of a list make those of another one, each beginning with the count that the
one before it leaves. -/
inductive InTurn {α β : Type} (R : α → Nat → β → Nat → Prop) :
    List α → Nat → List β → Nat → Prop
  | nil (n : Nat) : InTurn R [] n [] n
  | cons {a : α} {as : List α} {b : β} {bs : List β} {n k m : Nat} (head : R a n b k)
      (tail : InTurn R as k bs m) : InTurn R (a :: as) n (b :: bs) m

namespace InTurn

variable {α β : Type} {R S : α → Nat → β → Nat → Prop} {as : List α} {bs : List β} {n m : Nat}

theorem of_mapM {f : α → Counting β} (h : (as.mapM f).run n = (bs, m)) :
    InTurn (fun a n b m => (f a).run n = (b, m)) as n bs m := by
  induction as generalizing n bs with
  | nil =>
    cases h
    exact .nil _
  | cons a as ih =>
    rw [List.mapM_cons] at h
    cases h
    exact .cons rfl (ih rfl)

theorem imp (hRS : ∀ a n b m, R a n b m → S a n b m) (h : InTurn R as n bs m) :
    InTurn S as n bs m := by
  induction h with
  | nil n => exact .nil n
  | cons head _ ih => exact .cons (hRS _ _ _ _ head) ih

theorem length_eq (h : InTurn R as n bs m) : bs.length = as.length := by
  induction h with
  | nil n => rfl
  | cons _ _ ih => rw [List.length_cons, List.length_cons, ih]

theorem exists_of_mem (h : InTurn R as n bs m) {b : β} (hb : b ∈ bs) :
    ∃ a ∈ as, ∃ k l, R a k b l := by
  induction h with
  | nil n => cases hb
  | cons head _ ih =>
    rcases List.mem_cons.1 hb with rfl | hb
    · exact ⟨_, List.mem_cons_self, _, _, head⟩
    · obtain ⟨a, ha, hR⟩ := ih hb
      exact ⟨a, List.mem_cons_of_mem _ ha, hR⟩

/-- What each item determines of what it makes. -/
theorem map_eq_of_mem {γ : Type} {f : α → γ} {g : β → γ}
    (hR : ∀ a ∈ as, ∀ b ∈ bs, ∀ n m, R a n b m → g b = f a) (h : InTurn R as n bs m) :
    bs.map g = as.map f := by
  induction h with
  | nil n => rfl
  | cons head _ ih =>
    rw [List.map_cons, List.map_cons, hR _ List.mem_cons_self _ List.mem_cons_self _ _ head,
      ih fun a ha b hb => hR a (List.mem_cons_of_mem _ ha) b (List.mem_cons_of_mem _ hb)]

theorem map_eq {γ : Type} {f : α → γ} {g : β → γ} (hR : ∀ a n b m, R a n b m → g b = f a)
    (h : InTurn R as n bs m) : bs.map g = as.map f :=
  h.map_eq_of_mem fun _ _ _ _ _ _ => hR _ _ _ _

/-- Items that are made of others begin with these. -/
theorem of_map {γ : Type} {f : γ → α} {cs : List γ} (h : InTurn R (cs.map f) n bs m) :
    InTurn (fun c => R (f c)) cs n bs m := by
  induction cs generalizing n bs with
  | nil =>
    cases h
    exact .nil _
  | cons c cs ih =>
    cases h with
    | cons head tail => exact .cons head (ih tail)

end InTurn

/-! ## Shapes of values -/

/-- What a value has to be captured: nothing, items, entries, its own properties, or the fields
of an error. -/
inductive Host.Shape
  | leaf
  | sequence (xs : List Value)
  | map (es : List (Value × Value))
  | record
  | error (name : String)

namespace Host.Kind

/-- Arrays, typed arrays and sets are sequences, plain objects and functions are records; all
that is not listed is a leaf, classes among them. -/
def shape : Kind → Shape
  | .array xs => .sequence xs
  | .typedArray _ xs => .sequence xs
  | .set xs => .sequence xs
  | .map es => .map es
  | .object => .record
  | .function _ => .record
  | .error name => .error name
  | _ => .leaf

/-- A value that has parts to be captured. -/
def IsNested (k : Kind) : Prop := k.shape ≠ .leaf

end Host.Kind

/-- What stands for a property whose getter threw. -/
def Captured.IsAccessError (c : Captured) : Prop :=
  ∃ text, c = .missing "unknown" (.accessError text)

namespace Capture

/-! ## Captures at a depth -/

/-- Capturing a value at a depth, when `n` getters ran before, gives `c`, and then `m` getters
ran. -/
def CapturesAs (g : Getters) (h : Heap) (limits : CaptureLimits) (d : Nat) (v : Value) (n : Nat)
    (c : Captured) (m : Nat) : Prop :=
  (captureWithin g h limits (limits.maxReferenceDepth - d) v).run n = (c, m)

/-- Capturing a property of an object at a depth: its value, or what its getter answers. -/
inductive PropertyCapturesAs (g : Getters) (h : Heap) (limits : CaptureLimits) (d : Nat)
    (receiver : Value) : Property → Nat → Captured → Nat → Prop
  | data {v : Value} {n m : Nat} {c : Captured} (hc : CapturesAs g h limits d v n c m) :
      PropertyCapturesAs g h limits d receiver (.data v) n c m
  | returned {getter n m : Nat} {v : Value} {c : Captured}
      (hv : g.call h getter n receiver = .ok v) (hc : CapturesAs g h limits d v (n + 1) c m) :
      PropertyCapturesAs g h limits d receiver (.accessor getter) n c m
  | threw {getter n : Nat} {v : Value} (hv : g.call h getter n receiver = .error v) :
      PropertyCapturesAs g h limits d receiver (.accessor getter) n
        (.missing "unknown" (.accessError (h.describeThrown v))) (n + 1)

variable {g : Getters} {h : Heap} {limits : CaptureLimits} {d : Nat} {v : Value} {n m : Nat}
  {c : Captured}

/-- The whole capture of a value is that at depth 0. -/
theorem capturesAs_capture (g : Getters) (h : Heap) (limits : CaptureLimits) (v : Value)
    (n : Nat) :
    CapturesAs g h limits 0 v n ((capture g h limits v).run n).1
      ((capture g h limits v).run n).2 := rfl

theorem captureLeaf?_eq_none_iff (limits : CaptureLimits) (k : Kind) :
    captureLeaf? limits k = none ↔ k.IsNested := by
  cases k with
  | date t => cases t <;> simp [captureLeaf?, Kind.IsNested, Kind.shape]
  | _ => simp [captureLeaf?, Kind.IsNested, Kind.shape]

theorem shape_of_captureLeaf? {k : Kind} (hleaf : captureLeaf? limits k = some c) :
    k.shape = .leaf := by
  by_cases hshape : k.shape = .leaf
  · exact hshape
  · rw [(captureLeaf?_eq_none_iff limits k).2 hshape] at hleaf
    cases hleaf

/-- What a value that is not nested is captured as: a text within the limit, the words for
another value, or a type and perhaps why no more is kept. -/
inductive IsLeaf (limits : CaptureLimits) : Captured → Prop
  | text (s : String) : IsLeaf limits (captureText limits s)
  | primitive {type : String} (htype : type ≠ "string") (text : String) :
      IsLeaf limits (.primitive type text)
  | null : IsLeaf limits (.whole "null" .null)
  | empty (type : String) : IsLeaf limits (.whole type .empty)
  | unintrospectable (type : String) : IsLeaf limits (.missing type .unintrospectable)
  | unsupported (type : String) (n : Nat) :
      IsLeaf limits (.mk type .empty false (some n) (some .unsupported))

theorem isLeaf_of_captureLeaf? {k : Kind} (hleaf : captureLeaf? limits k = some c) :
    IsLeaf limits c := by
  cases k with
  | string s => cases hleaf; exact .text s
  | null => cases hleaf; exact .null
  | undefined => cases hleaf; exact .empty _
  | classFunction f => cases hleaf; exact .empty _
  | promise => cases hleaf; exact .unintrospectable _
  | weakMap es => cases hleaf; exact .unintrospectable _
  | weakSet xs => cases hleaf; exact .unintrospectable _
  | buffer name k => cases hleaf; exact .unsupported name k
  | date t => cases t <;> cases hleaf <;> exact .primitive (by decide) _
  | bool b => cases hleaf; exact .primitive (by decide) _
  | number x => cases hleaf; exact .primitive (by decide) _
  | bigint i => cases hleaf; exact .primitive (by decide) _
  | symbol s => cases hleaf; exact .primitive (by decide) _
  | regexp r => cases hleaf; exact .primitive (by decide) _
  | _ => cases hleaf

theorem exists_object_of_isNested (hv : (h.kind v).IsNested) : ∃ id, v = .object id := by
  cases v with
  | object id => exact ⟨id, rfl⟩
  | _ => exact absurd rfl hv

theorem captureWithin_leaf (hleaf : captureLeaf? limits (h.kind v) = some c) (k : Nat) :
    captureWithin g h limits k v = pure c := by
  unfold captureWithin
  simp only [hleaf]

theorem captureWithin_zero {id : ObjectId} (hv : (h.kind (.object id)).IsNested) :
    captureWithin g h limits 0 (.object id) = pure (.missing (h.constructorName id) .depth) := by
  have hleaf := (captureLeaf?_eq_none_iff limits _).2 hv
  unfold captureWithin
  simp only [hleaf]

theorem captureWithin_succ {id : ObjectId} (hv : (h.kind (.object id)).IsNested) (k : Nat) :
    captureWithin g h limits (k + 1) (.object id) =
      captureParts (captureWithin g h limits k) g h limits id (h.kind (.object id)) := by
  have hleaf := (captureLeaf?_eq_none_iff limits _).2 hv
  rw [captureWithin.eq_def]
  simp only [hleaf]

/-- **What a value is captured as.** One that is not nested is captured as it is; a nested one
by its type if no level remains, and else by its parts, each one level deeper. -/
theorem capturesAs_cases (hc : CapturesAs g h limits d v n c m) :
    captureLeaf? limits (h.kind v) = some c ∨
    (∃ id, v = .object id ∧ (h.kind v).IsNested ∧ limits.maxReferenceDepth ≤ d ∧
      c = .missing (h.constructorName id) .depth) ∨
    ∃ id, v = .object id ∧ (h.kind v).IsNested ∧ d < limits.maxReferenceDepth ∧
      (captureParts (captureWithin g h limits (limits.maxReferenceDepth - (d + 1))) g h limits
        id (h.kind v)).run n = (c, m) := by
  rw [CapturesAs] at hc
  cases hleaf : captureLeaf? limits (h.kind v) with
  | some leaf =>
    rw [captureWithin_leaf hleaf] at hc
    cases hc
    exact Or.inl rfl
  | none =>
    have hnested := (captureLeaf?_eq_none_iff limits (h.kind v)).1 hleaf
    obtain ⟨id, rfl⟩ := exists_object_of_isNested hnested
    right
    by_cases hd : limits.maxReferenceDepth ≤ d
    · left
      rw [Nat.sub_eq_zero_of_le hd, captureWithin_zero hnested] at hc
      cases hc
      exact ⟨id, rfl, hnested, hd, rfl⟩
    · right
      have hlevels : limits.maxReferenceDepth - d =
          (limits.maxReferenceDepth - (d + 1)) + 1 := by omega
      rw [hlevels, captureWithin_succ hnested] at hc
      exact ⟨id, rfl, hnested, Nat.lt_of_not_le hd, hc⟩

/-! ## The parts of a value -/

/-- What stands on a node for a source with so many parts of which a limit keeps the first
ones: the reason and the size if there are more, and nothing else. -/
def CutMarks (limit total : Nat) (reason : NotCaptured) (c : Captured) : Prop :=
  c.reason = (if limit < total then some reason else none) ∧
  c.size = (if limit < total then some total else none)

theorem body_limited (limit total : Nat) (reason : NotCaptured) (type : String)
    (body : CapturedBody Captured) : (limited limit total reason type body).body = body := by
  rw [limited]
  split
  · rfl
  · rfl

theorem cutMarks_limited (limit total : Nat) (reason : NotCaptured) (type : String)
    (body : CapturedBody Captured) :
    CutMarks limit total reason (limited limit total reason type body) := by
  rw [CutMarks, limited]
  split
  · exact ⟨rfl, rfl⟩
  · exact ⟨rfl, rfl⟩

theorem of_captureElements {f : Value → Counting Captured} {type : String} {xs : List Value}
    (hc : (captureElements f limits type xs).run n = (c, m)) :
    ∃ cs, InTurn (fun x n y m => (f x).run n = (y, m)) (xs.take limits.maxCollectionSize) n cs m ∧
      c = limited limits.maxCollectionSize xs.length .collectionSize type (.elements cs) := by
  cases hc
  exact ⟨_, .of_mapM rfl, rfl⟩

/-- The captures of the two parts of an entry: of its key, and then of its value. -/
def EntryInTurn (R : Value → Nat → Captured → Nat → Prop) (e : Value × Value) (n : Nat)
    (p : Captured × Captured) (m : Nat) : Prop :=
  ∃ k, R e.1 n p.1 k ∧ R e.2 k p.2 m

theorem of_captureEntries {f : Value → Counting Captured} {es : List (Value × Value)}
    (hc : (captureEntries f limits es).run n = (c, m)) :
    ∃ cs, InTurn (EntryInTurn fun x n y m => (f x).run n = (y, m))
        (es.take limits.maxCollectionSize) n cs m ∧
      c = limited limits.maxCollectionSize es.length .collectionSize "Map" (.entries cs) := by
  cases hc
  refine ⟨_, (InTurn.of_mapM rfl).imp ?_, rfl⟩
  intro e n p m hp
  cases hp
  exact ⟨_, rfl, rfl⟩

theorem of_captureProperty {receiver : Value} {p : Property}
    (hc : (captureProperty (captureWithin g h limits (limits.maxReferenceDepth - d)) g h
      receiver (some p)).run n = (c, m)) :
    PropertyCapturesAs g h limits d receiver p n c m := by
  cases p with
  | data v => exact .data hc
  | accessor getter =>
    cases hv : g.call h getter n receiver with
    | ok v =>
      have hreturned : (captureProperty (captureWithin g h limits
          (limits.maxReferenceDepth - d)) g h receiver (some (.accessor getter))).run n =
          (captureWithin g h limits (limits.maxReferenceDepth - d) v).run (n + 1) := by
        simp [captureProperty, Getters.run, hv]
      exact .returned hv (hreturned.symm.trans hc)
    | error v =>
      have hthrown : (captureProperty (captureWithin g h limits (limits.maxReferenceDepth - d))
          g h receiver (some (.accessor getter))).run n =
          (.missing "unknown" (.accessError (h.describeThrown v)), n + 1) := by
        simp [captureProperty, Getters.run, hv]
        rfl
      rw [hthrown] at hc
      cases hc
      exact .threw hv

/-- Capturing the field of a property: under the text of its key, at a depth. -/
def FieldCapturesAs (g : Getters) (h : Heap) (limits : CaptureLimits) (d : Nat)
    (receiver : Value) (p : PropertyKey × Property) (n : Nat) (f : String × Captured) (m : Nat) :
    Prop :=
  f.1 = p.1.text ∧ PropertyCapturesAs g h limits d receiver p.2 n f.2 m

theorem of_captureFields {id : ObjectId}
    (hc : (captureFields (captureWithin g h limits (limits.maxReferenceDepth - d)) g h limits
      id).run n = (c, m)) :
    ∃ fs, InTurn (FieldCapturesAs g h limits d (.object id))
        ((h.object id).properties.entries.take limits.maxFieldCount) n fs m ∧
      c = limited limits.maxFieldCount (h.object id).properties.entries.length .fieldCount
        (h.constructorName id) (.fields (OrderedTable.ofList fs).entries) := by
  cases hc
  refine ⟨_, (InTurn.of_mapM rfl).imp ?_, rfl⟩
  intro p n f m hf
  cases hf
  exact ⟨rfl, of_captureProperty rfl⟩

/-! ## What every part is -/

/-- A node at a depth: the capture of some value, or what stands for a getter that threw. -/
def IsPart (g : Getters) (h : Heap) (limits : CaptureLimits) (d : Nat) (c : Captured) : Prop :=
  c.IsAccessError ∨ ∃ v n m, CapturesAs g h limits d v n c m

theorem PropertyCapturesAs.isPart {receiver : Value} {p : Property}
    (hc : PropertyCapturesAs g h limits d receiver p n c m) : IsPart g h limits d c := by
  cases hc with
  | data hc => exact Or.inr ⟨_, _, _, hc⟩
  | returned _ hc => exact Or.inr ⟨_, _, _, hc⟩
  | threw _ => exact Or.inl ⟨_, rfl⟩

/-- A property that is absent is captured as undefined. -/
theorem isPart_captureProperty {receiver : Value} {p : Option Property}
    (hc : (captureProperty (captureWithin g h limits (limits.maxReferenceDepth - d)) g h
      receiver p).run n = (c, m)) : IsPart g h limits d c := by
  cases p with
  | none =>
    cases hc
    refine Or.inr ⟨.undefined, n, n, ?_⟩
    rw [CapturesAs, captureWithin_leaf rfl]
    rfl
  | some p => exact (of_captureProperty hc).isPart

theorem isPart_captureText (s : String) : IsPart g h limits d (captureText limits s) := by
  refine Or.inr ⟨.string s, 0, 0, ?_⟩
  rw [CapturesAs, captureWithin_leaf rfl]
  rfl

/-! ## Errors -/

/-- The name field of an error: its own property, or the name of the error. -/
def captureErrorName (f : Value → Counting Captured) (g : Getters) (h : Heap)
    (limits : CaptureLimits) (name : String) (id : ObjectId) : Counting Captured :=
  if (h.ownProperty? id (.string "name")).isNone then pure (captureText limits name)
  else captureProperty f g h (.object id) (h.ownProperty? id (.string "name"))

/-- The cause field of an error, if it has a cause of its own. -/
def captureErrorCause (f : Value → Counting Captured) (g : Getters) (h : Heap) (id : ObjectId) :
    Counting (List (String × Captured)) :=
  if (h.ownProperty? id (.string "cause")).isNone then pure []
  else do
    let c ← captureProperty f g h (.object id) (h.ownProperty? id (.string "cause"))
    pure [("cause", c)]

theorem captureError_eq (f : Value → Counting Captured) (g : Getters) (h : Heap)
    (limits : CaptureLimits) (name : String) (id : ObjectId) :
    captureError f g h limits name id = (do
      let message ← captureProperty f g h (.object id) (h.ownProperty? id (.string "message"))
      let nameField ← captureErrorName f g h limits name id
      let stack ← captureProperty f g h (.object id) (h.ownProperty? id (.string "stack"))
      let cause ← captureErrorCause f g h id
      pure (.whole name
        (.fields ([("message", message), ("name", nameField), ("stack", stack)] ++ cause)))) := by
  simp only [captureError, captureErrorName, captureErrorCause]
  cases (h.ownProperty? id (.string "name")).isNone <;>
    cases (h.ownProperty? id (.string "cause")).isNone <;> rfl

theorem exists_run_of_bind {α β : Type} {x : Counting α} {f : α → Counting β} {b : β}
    (hb : (x >>= f).run n = (b, m)) : ∃ a k, x.run n = (a, k) ∧ (f a).run k = (b, m) :=
  ⟨_, _, rfl, hb⟩

/-- The names of the fields of an error. -/
def errorFieldNames : List String := ["message", "name", "stack", "cause"]

/-- The names of the fields of one error: all of these but the cause, and that one if it has
it. -/
def errorFields (h : Heap) (id : ObjectId) : List String :=
  ["message", "name", "stack"] ++
    if (h.ownProperty? id (.string "cause")).isNone then [] else ["cause"]

theorem errorFields_sublist (h : Heap) (id : ObjectId) :
    (errorFields h id).Sublist errorFieldNames := by
  unfold errorFields
  split <;> decide

/-- An error is captured by these fields, all of them and no more. -/
theorem fields_of_captureError {name : String} {id : ObjectId}
    (hc : (captureError (captureWithin g h limits (limits.maxReferenceDepth - d)) g h limits name
      id).run n = (c, m)) :
    ∃ fs : List (String × Captured), c = .whole name (.fields fs) ∧
      fs.map (·.1) = errorFields h id ∧ ∀ f ∈ fs, IsPart g h limits d f.2 := by
  rw [captureError_eq] at hc
  obtain ⟨message, n₁, hmessage, hc⟩ := exists_run_of_bind hc
  obtain ⟨nameField, n₂, hname, hc⟩ := exists_run_of_bind hc
  obtain ⟨stack, n₃, hstack, hc⟩ := exists_run_of_bind hc
  obtain ⟨cause, n₄, hcause, hc⟩ := exists_run_of_bind hc
  have hnamePart : IsPart g h limits d nameField := by
    unfold captureErrorName at hname
    split at hname
    · cases hname
      exact isPart_captureText name
    · exact isPart_captureProperty hname
  have hcauseParts : errorFields h id = ["message", "name", "stack"] ++ cause.map (·.1) ∧
      ∀ f ∈ cause, IsPart g h limits d f.2 := by
    unfold captureErrorCause at hcause
    unfold errorFields
    split at hcause
    · rename_i hnone
      cases hcause
      exact ⟨by rw [if_pos hnone]; rfl, List.forall_mem_nil _⟩
    · rename_i hsome
      obtain ⟨x, k, hx, hcause⟩ := exists_run_of_bind hcause
      cases hcause
      exact ⟨by rw [if_neg hsome]; rfl, List.forall_mem_singleton.2 (isPart_captureProperty hx)⟩
  cases hc
  refine ⟨_, rfl, ?_, ?_⟩
  · rw [List.map_append, hcauseParts.1]
    rfl
  · intro f hf
    rcases List.mem_append.1 hf with hf | hf
    · simp only [List.mem_cons, List.not_mem_nil, or_false] at hf
      rcases hf with rfl | rfl | rfl
      · exact isPart_captureProperty hmessage
      · exact hnamePart
      · exact isPart_captureProperty hstack
    · exact hcauseParts.2 f hf

theorem of_captureError {name : String} {id : ObjectId}
    (hc : (captureError (captureWithin g h limits (limits.maxReferenceDepth - d)) g h limits name
      id).run n = (c, m)) :
    ∃ fs : List (String × Captured), c = .whole name (.fields fs) ∧
      (fs.map (·.1)).Sublist errorFieldNames ∧ ∀ f ∈ fs, IsPart g h limits d f.2 := by
  obtain ⟨fs, hc, hnames, hparts⟩ := fields_of_captureError hc
  exact ⟨fs, hc, hnames ▸ errorFields_sublist h id, hparts⟩

/-! ## The sorts of captures -/

/-- What capturing a value at a depth comes to, by the sort of the value. -/
inductive Outcome (g : Getters) (h : Heap) (limits : CaptureLimits) (d : Nat) (v : Value) (n : Nat)
    (c : Captured) (m : Nat) : Prop
  /-- The value is not nested. -/
  | leaf (hshape : (h.kind v).shape = .leaf) (hc : IsLeaf limits c)
  /-- No level remains for the parts of the value. -/
  | depth {id : ObjectId} (hd : limits.maxReferenceDepth ≤ d) (hnested : (h.kind v).IsNested)
      (hc : c = .missing (h.constructorName id) .depth)
  /-- The value is a sequence. -/
  | elements {xs : List Value} {type : String} {cs : List Captured}
      (hd : d < limits.maxReferenceDepth) (hshape : (h.kind v).shape = .sequence xs)
      (hcs : InTurn (CapturesAs g h limits (d + 1)) (xs.take limits.maxCollectionSize) n cs m)
      (hc : c = limited limits.maxCollectionSize xs.length .collectionSize type (.elements cs))
  /-- The value is a map. -/
  | entries {es : List (Value × Value)} {cs : List (Captured × Captured)}
      (hd : d < limits.maxReferenceDepth) (hshape : (h.kind v).shape = .map es)
      (hcs : InTurn (EntryInTurn (CapturesAs g h limits (d + 1)))
        (es.take limits.maxCollectionSize) n cs m)
      (hc : c = limited limits.maxCollectionSize es.length .collectionSize "Map" (.entries cs))
  /-- The value is captured by its own properties. -/
  | fields {id : ObjectId} {fs : List (String × Captured)} (hd : d < limits.maxReferenceDepth)
      (hid : v = .object id) (hshape : (h.kind v).shape = .record)
      (hfs : InTurn (FieldCapturesAs g h limits (d + 1) (.object id))
        ((h.object id).properties.entries.take limits.maxFieldCount) n fs m)
      (hc : c = limited limits.maxFieldCount (h.object id).properties.entries.length .fieldCount
        (h.constructorName id) (.fields (OrderedTable.ofList fs).entries))
  /-- The value is an error. -/
  | error {name : String} {fs : List (String × Captured)} (hd : d < limits.maxReferenceDepth)
      (hshape : (h.kind v).shape = .error name) (hc : c = .whole name (.fields fs))
      (hnames : (fs.map (·.1)).Sublist errorFieldNames)
      (hparts : ∀ f ∈ fs, IsPart g h limits (d + 1) f.2)

/-- **Every capture is of one of these sorts.** -/
theorem CapturesAs.outcome (hc : CapturesAs g h limits d v n c m) :
    Outcome g h limits d v n c m := by
  rcases capturesAs_cases hc with hleaf | ⟨id, -, hnested, hd, hc⟩ | ⟨id, hid, hnested, hd, hparts⟩
  · exact .leaf (shape_of_captureLeaf? hleaf) (isLeaf_of_captureLeaf? hleaf)
  · exact .depth hd hnested hc
  · cases hk : h.kind v with
    | array xs =>
      rw [hk] at hparts
      obtain ⟨cs, hcs, hc⟩ := of_captureElements hparts
      exact .elements hd (congrArg Kind.shape hk) hcs hc
    | typedArray t xs =>
      rw [hk] at hparts
      obtain ⟨cs, hcs, hc⟩ := of_captureElements hparts
      exact .elements hd (congrArg Kind.shape hk) hcs hc
    | set xs =>
      rw [hk] at hparts
      obtain ⟨cs, hcs, hc⟩ := of_captureElements hparts
      exact .elements hd (congrArg Kind.shape hk) hcs hc
    | map es =>
      rw [hk] at hparts
      obtain ⟨cs, hcs, hc⟩ := of_captureEntries hparts
      exact .entries hd (congrArg Kind.shape hk) hcs hc
    | error name =>
      rw [hk] at hparts
      obtain ⟨fs, hc, hnames, hfs⟩ := of_captureError hparts
      exact .error hd (congrArg Kind.shape hk) hc hnames hfs
    | object =>
      rw [hk] at hparts
      obtain ⟨fs, hfs, hc⟩ := of_captureFields hparts
      exact .fields hd hid (congrArg Kind.shape hk) hfs hc
    | function f =>
      rw [hk] at hparts
      obtain ⟨fs, hfs, hc⟩ := of_captureFields hparts
      exact .fields hd hid (congrArg Kind.shape hk) hfs hc
    | _ =>
      rw [hk] at hnested
      exact absurd rfl hnested

end Capture

end ProbeEngine
