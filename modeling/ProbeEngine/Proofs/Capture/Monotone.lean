import Mathlib.Logic.Relation
import ProbeEngine.Proofs.Capture.FieldLimit
import ProbeEngine.Proofs.Capture.Pruning
import ProbeEngine.Proofs.Capture.Steady

/-!
# Captures under lower limits

Lower limits leave less of a captured value, and change nothing of what they leave. Two captures
of a value go the same way if the getters are steady, so they are compared step by step
(`related_captureWithin`), and one under lower limits is a pruning of the other one. Fields are
compared by their places, as long as no two keys of an object read alike; keys that are texts
do not (`capture_monotone`).
-/

namespace ProbeEngine

open Host (Value Heap Kind PropertyKey Property ObjectId ObjectKind Getters Counting)

/-! ## What values hold -/

namespace Host

/-- A value holds another one: as an item, in an entry, or by an own property. -/
inductive Heap.Holds (g : Getters) (h : Heap) : Value → Value → Prop
  | item {v x : Value} {xs : List Value} (hv : (h.kind v).shape = .sequence xs) (hx : x ∈ xs) :
      Holds g h v x
  | key {v : Value} {es : List (Value × Value)} {e : Value × Value}
      (hv : (h.kind v).shape = .map es) (he : e ∈ es) : Holds g h v e.1
  | value {v : Value} {es : List (Value × Value)} {e : Value × Value}
      (hv : (h.kind v).shape = .map es) (he : e ∈ es) : Holds g h v e.2
  | property {id : ObjectId} {key : PropertyKey} {p : Property} {x : Value}
      (hp : (key, p) ∈ (h.object id).properties.entries) (hx : p.Gives g h (.object id) x) :
      Holds g h (.object id) x

/-- What can be come to from a value, itself included. -/
def Heap.Reaches (g : Getters) (h : Heap) : Value → Value → Prop :=
  Relation.ReflTransGen (h.Holds g)

end Host

/-- Limits that are no greater than other ones. -/
structure CaptureLimits.AtMost (limits limits' : CaptureLimits) : Prop where
  depth : limits.maxReferenceDepth ≤ limits'.maxReferenceDepth
  items : limits.maxCollectionSize ≤ limits'.maxCollectionSize
  fields : limits.maxFieldCount ≤ limits'.maxFieldCount
  length : limits.maxLength ≤ limits'.maxLength

namespace Capture

open Captured (IsPruningOf FieldsBegin)

variable {g : Getters} {h : Heap} {limits limits' : CaptureLimits}

/-! ## Parts of a value -/

theorem type_limited (limit n : Nat) (reason : NotCaptured) (type : String)
    (body : CapturedBody Captured) : (limited limit n reason type body).type = type := by
  rw [limited]
  split <;> rfl

theorem children_limited (limit n : Nat) (reason : NotCaptured) (type : String)
    (body : CapturedBody Captured) : (limited limit n reason type body).children = body.parts := by
  rw [Captured.children, body_limited]

/-- A body of which a limit kept the first parts, and of which a greater one did. -/
theorem isPruningOf_limited {limit limit' total : Nat} (hlimit : limit ≤ limit')
    (reason : NotCaptured) (type : String) {body body' : CapturedBody Captured}
    (hbody : body.Begins body') (hwhole : total ≤ limit → body'.Begins body)
    (hparts : Begins IsPruningOf body.parts body'.parts) :
    (limited limit total reason type body).IsPruningOf
      (limited limit' total reason type body') := by
  refine .node ⟨?_, Or.inr ?_, fun hnone => ?_⟩ ?_
  · rw [type_limited, type_limited]
  · rw [body_limited, body_limited]
    exact hbody
  · have hle : total ≤ limit := by
      by_contra hlt
      rw [(cutMarks_limited _ _ _ _ _).1, if_pos (Nat.lt_of_not_le hlt)] at hnone
      cases hnone
    rw [body_limited, body_limited, (cutMarks_limited _ _ _ _ _).1, if_neg (by omega)]
    exact ⟨rfl, hwhole hle⟩
  · rw [children_limited, children_limited]
    exact hparts

/-- Two loops over lists of which one begins the other. -/
theorem related_mapM {α β γ δ : Type} {S : α → β → Prop} {T : γ → δ → Prop}
    {f : α → Counting γ} {f' : β → Counting δ} {as : List α} {bs : List β} (h : Begins S as bs)
    (hf : ∀ a b, S a b → Counting.Related T (f a) (f' b)) :
    Counting.Related (Begins T) (as.mapM f) (bs.mapM f') := by
  induction h with
  | nil bs => exact fun _ _ => .nil _
  | cons head _ ih =>
    rw [List.mapM_cons, List.mapM_cons]
    refine .bind (hf _ _ head) fun c d hcd => .bind ih fun cs ds hcds => ?_
    exact .pure (.cons hcd hcds)

theorem length_run_mapM {α β : Type} (f : α → Counting β) (as : List α) (n : Nat) :
    ((as.mapM f).run n).1.length = as.length :=
  (InTurn.of_mapM rfl).length_eq

variable {f f' : Value → Counting Captured}

/-- Two captures of a value that go side by side. -/
def SideBySide (f f' : Value → Counting Captured) (v : Value) : Prop :=
  Counting.Related IsPruningOf (f v) (f' v)

/-- A list of which a limit keeps the first members, and of which a greater one does, is gone
through by two loops: the results of one begin those of the other, and are as many if the lower
limit keeps all. -/
theorem related_mapM_take {α β γ : Type} {T : β → γ → Prop} {f : α → Counting β}
    {f' : α → Counting γ} {k k' : Nat} (hk : k ≤ k') {as : List α}
    (hf : ∀ a ∈ as, Counting.Related T (f a) (f' a)) :
    Counting.Related
      (fun bs cs => Begins T bs cs ∧ (as.length ≤ k → cs.length ≤ bs.length))
      ((as.take k).mapM f) ((as.take k').mapM f') := by
  intro n m
  refine ⟨related_mapM (.take hf hk) (fun a b hab => ?_) n m, fun hall => ?_⟩
  · obtain ⟨rfl, hab⟩ := hab
    exact hab
  · rw [length_run_mapM, length_run_mapM, List.length_take, List.length_take]
    omega

theorem related_captureElements (hlimit : limits.maxCollectionSize ≤ limits'.maxCollectionSize)
    (type : String) {xs : List Value} (hxs : ∀ x ∈ xs, SideBySide f f' x) :
    Counting.Related IsPruningOf (captureElements f limits type xs)
      (captureElements f' limits' type xs) := by
  refine .bind (related_mapM_take hlimit hxs) fun cs cs' hcs => .pure ?_
  exact isPruningOf_limited hlimit _ _ hcs.1.length_le hcs.2 hcs.1

theorem related_captureEntries (hlimit : limits.maxCollectionSize ≤ limits'.maxCollectionSize)
    {es : List (Value × Value)} (hes : ∀ e ∈ es, SideBySide f f' e.1 ∧ SideBySide f f' e.2) :
    Counting.Related IsPruningOf (captureEntries f limits es) (captureEntries f' limits' es) := by
  refine .bind (related_mapM_take
    (T := fun p p' => p.1.IsPruningOf p'.1 ∧ p.2.IsPruningOf p'.2) hlimit fun e he => ?_)
    fun cs cs' hcs => .pure ?_
  · obtain ⟨hkey, hvalue⟩ := hes e he
    exact .bind hkey fun k k' hk => .bind hvalue fun v v' hv => .pure ⟨hk, hv⟩
  · refine isPruningOf_limited hlimit _ _ hcs.1.length_le hcs.2 ?_
    exact hcs.1.flatMap fun p p' hp => .cons hp.1 (.cons hp.2 .nil)

/-! ## Objects captured by their properties -/

/-- The field of a property: under the text of its key. -/
def captureField (f : Value → Counting Captured) (g : Getters) (h : Heap) (id : ObjectId)
    (p : PropertyKey × Property) : Counting (String × Captured) := do
  return (p.1.text, ← captureProperty f g h (.object id) (some p.2))

theorem map_fst_run_captureField (f : Value → Counting Captured) (id : ObjectId)
    (ps : List (PropertyKey × Property)) (n : Nat) :
    ((ps.mapM (captureField f g h id)).run n).1.map (·.1) = ps.map fun p => p.1.text := by
  refine (InTurn.of_mapM rfl).map_eq fun p n field m hfield => ?_
  cases hfield
  rfl

/-- Keys that are texts are told apart by their texts. -/
theorem nodup_map_text {ks : List PropertyKey} (hks : ks.Nodup)
    (hstrings : ∀ k ∈ ks, k.string?.isSome) : (ks.map PropertyKey.text).Nodup := by
  refine hks.map_on fun k hk l hl heq => ?_
  have hk := hstrings k hk
  have hl := hstrings l hl
  cases k with
  | symbol s => cases hk
  | string s =>
    cases l with
    | symbol t => cases hl
    | string t => exact congrArg PropertyKey.string heq

/-- Fields under different names stay as they are captured. -/
theorem entries_ofList_captureField {id : ObjectId} (hdistinct : (h.ownKeys id).Nodup)
    (hstrings : ∀ k ∈ h.ownKeys id, k.string?.isSome) (f : Value → Counting Captured)
    (k n : Nat) :
    let fs := ((((h.object id).properties.entries.take k).mapM (captureField f g h id)).run n).1
    (OrderedTable.ofList fs).entries = fs := by
  refine OrderedTable.entries_ofList_of_nodup ?_
  rw [map_fst_run_captureField, List.map_take]
  have hnames := nodup_map_text hdistinct hstrings
  rw [Heap.ownKeys, OrderedTable.keys, List.map_map] at hnames
  exact hnames.sublist (List.take_sublist _ _)

theorem related_captureFields (hg : g.Steady)
    (hlimit : limits.maxFieldCount ≤ limits'.maxFieldCount) {id : ObjectId}
    (hdistinct : (h.ownKeys id).Nodup) (hstrings : ∀ k ∈ h.ownKeys id, k.string?.isSome)
    (hheld : ∀ x, h.Holds g (.object id) x → SideBySide f f' x) :
    Counting.Related IsPruningOf (captureFields f g h limits id)
      (captureFields f' g h limits' id) := by
  have hfields : Counting.Related (fun fs fs' => fs = (OrderedTable.ofList fs).entries ∧
      fs' = (OrderedTable.ofList fs').entries ∧
      FieldsBegin fs fs' ∧
      ((h.object id).properties.entries.length ≤ limits.maxFieldCount → fs'.length ≤ fs.length))
      (((h.object id).properties.entries.take limits.maxFieldCount).mapM (captureField f g h id))
      (((h.object id).properties.entries.take limits'.maxFieldCount).mapM
        (captureField f' g h id)) := by
    intro n m
    refine ⟨(entries_ofList_captureField hdistinct hstrings f _ n).symm,
      (entries_ofList_captureField hdistinct hstrings f' _ m).symm,
      related_mapM_take hlimit (fun p hp => ?_) n m⟩
    refine .bind (related_captureProperty .refl hg _ fun q x hq hx => hheld x ?_)
      fun c c' hc => .pure ⟨rfl, hc⟩
    cases hq
    exact .property hp hx
  refine .bind hfields fun fs fs' ⟨hfs, hfs', hbegins, hwhole⟩ => .pure ?_
  rw [← hfs, ← hfs']
  exact isPruningOf_limited hlimit _ _ hbegins.body
    (fun hall => hbegins.body_of_length_le (hwhole hall)) hbegins.parts

/-- The property that an object has under a key is captured side by side. -/
theorem related_captureOwn (hg : g.Steady) {id : ObjectId}
    (hheld : ∀ x, h.Holds g (.object id) x → SideBySide f f' x) (key : String) :
    Counting.Related IsPruningOf
      (captureProperty f g h (.object id) (h.ownProperty? id (.string key)))
      (captureProperty f' g h (.object id) (h.ownProperty? id (.string key))) :=
  related_captureProperty .refl hg _ fun _ x hp hx =>
    hheld x (.property (OrderedTable.mem_of_get? hp) hx)

/-! ## Texts -/

theorem isPruningOf_captureText (hlimit : limits.maxLength ≤ limits'.maxLength) (s : String) :
    (captureText limits s).IsPruningOf (captureText limits' s) := by
  by_cases hwhole : Text.charCount s ≤ limits.maxLength
  · rw [(captureText_eq_primitive_iff limits s).2 hwhole,
      (captureText_eq_primitive_iff limits' s).2 (by omega)]
    exact .refl _
  · rw [captureText_of_lt (Nat.lt_of_not_le hwhole)]
    by_cases hwhole' : Text.charCount s ≤ limits'.maxLength
    · rw [(captureText_eq_primitive_iff limits' s).2 hwhole']
      refine .node ⟨rfl, Or.inr ?_, fun hnone => nomatch hnone⟩ (.nil _)
      show (Text.firstChars limits.maxLength s).toList <+: s.toList
      rw [Text.firstChars, String.toList_ofList]
      exact List.take_prefix _ _
    · rw [captureText_of_lt (Nat.lt_of_not_le hwhole')]
      refine .node ⟨rfl, Or.inr ?_, fun hnone => nomatch hnone⟩ (.nil _)
      show (Text.firstChars limits.maxLength s).toList <+:
        (Text.firstChars limits'.maxLength s).toList
      rw [Text.firstChars, Text.firstChars, String.toList_ofList, String.toList_ofList]
      exact List.take_prefix_take_left hlimit

/-- Of the values that are not nested, the limits matter for texts alone. -/
theorem exists_captureLeaf? (hlimit : limits.maxLength ≤ limits'.maxLength) {k : Kind}
    {c : Captured} (hleaf : captureLeaf? limits k = some c) :
    ∃ c', captureLeaf? limits' k = some c' ∧ c.IsPruningOf c' := by
  cases k with
  | string s =>
    cases hleaf
    exact ⟨_, rfl, isPruningOf_captureText hlimit s⟩
  | date t =>
    cases t with
    | none => exact ⟨c, hleaf, .refl c⟩
    | some t => exact ⟨c, hleaf, .refl c⟩
  | _ => exact ⟨c, hleaf, .refl c⟩

/-! ## Errors -/

theorem related_captureError (hg : g.Steady) (hlimit : limits.maxLength ≤ limits'.maxLength)
    (name : String) {id : ObjectId}
    (hheld : ∀ x, h.Holds g (.object id) x → SideBySide f f' x) :
    Counting.Related IsPruningOf (captureError f g h limits name id)
      (captureError f' g h limits' name id) := by
  have hname : Counting.Related IsPruningOf (captureErrorName f g h limits name id)
      (captureErrorName f' g h limits' name id) := by
    unfold captureErrorName
    split
    · exact .pure (isPruningOf_captureText hlimit name)
    · exact related_captureOwn hg hheld "name"
  have hcause : Counting.Related (List.Forall₂ fun p p' => p.1 = p'.1 ∧ p.2.IsPruningOf p'.2)
      (captureErrorCause f g h id) (captureErrorCause f' g h id) := by
    unfold captureErrorCause
    split
    · exact .pure .nil
    · exact .bind (related_captureOwn hg hheld "cause") fun c c' hc => .pure (.cons ⟨rfl, hc⟩ .nil)
  rw [captureError_eq, captureError_eq]
  refine .bind (related_captureOwn hg hheld "message") fun message message' hmessage => ?_
  refine .bind hname fun nameField nameField' hnameField => ?_
  refine .bind (related_captureOwn hg hheld "stack") fun stack stack' hstack => ?_
  refine .bind hcause fun cause cause' hcause => .pure ?_
  have hfields : List.Forall₂ (fun p p' : String × Captured => p.1 = p'.1 ∧ p.2.IsPruningOf p'.2)
      ([("message", message), ("name", nameField), ("stack", stack)] ++ cause)
      ([("message", message'), ("name", nameField'), ("stack", stack')] ++ cause') :=
    .cons ⟨rfl, hmessage⟩ (.cons ⟨rfl, hnameField⟩ (.cons ⟨rfl, hstack⟩ hcause))
  have hbegins : FieldsBegin _ _ := .of_forall₂ hfields
  have hlength := hfields.length_eq
  exact .node ⟨rfl, Or.inr hbegins.body, fun _ => ⟨rfl, hbegins.body_of_length_le hlength.ge⟩⟩
    hbegins.parts

/-! ## Values -/

/-- A nested value is captured with the type by which it would be left out for its depth. -/
theorem type_run_captureParts {id : ObjectId} (hv : (h.kind (.object id)).IsNested)
    (f : Value → Counting Captured) (n : Nat) :
    ((captureParts f g h limits id (h.kind (.object id))).run n).1.type =
      h.constructorName id := by
  have hkind : h.kind (.object id) = (h.object id).kind.kind := rfl
  rw [hkind] at hv ⊢
  cases hk : (h.object id).kind with
  | ordinary => exact type_limited _ _ _ _ _
  | function info =>
    rw [hk, Host.ObjectKind.kind] at hv
    rw [Host.ObjectKind.kind]
    split at hv
    · exact absurd rfl hv
    · rename_i hclass
      rw [if_neg hclass]
      exact type_limited _ _ _ _ _
  | error name =>
    show ((captureError f g h limits name id).run n).1.type = h.constructorName id
    rw [captureError_eq, Heap.constructorName, hk]
    rfl
  | array xs =>
    rw [Heap.constructorName, hk]
    exact type_limited _ _ _ _ _
  | typedArray t xs =>
    rw [Heap.constructorName, hk]
    exact type_limited _ _ _ _ _
  | set xs =>
    rw [Heap.constructorName, hk]
    exact type_limited _ _ _ _ _
  | map es =>
    rw [Heap.constructorName, hk]
    exact type_limited _ _ _ _ _
  | _ =>
    rw [hk] at hv
    exact absurd rfl hv

theorem type_run_captureWithin {id : ObjectId} (hv : (h.kind (.object id)).IsNested)
    (levels n : Nat) :
    ((captureWithin g h limits levels (.object id)).run n).1.type = h.constructorName id := by
  cases levels with
  | zero =>
    rw [captureWithin_zero hv]
    rfl
  | succ levels =>
    rw [captureWithin_succ hv]
    exact type_run_captureParts hv _ n

theorem related_captureParts (hg : g.Steady) (hle : limits.AtMost limits') {id : ObjectId}
    (hdistinct : (h.ownKeys id).Nodup) (hstrings : ∀ k ∈ h.ownKeys id, k.string?.isSome)
    (hheld : ∀ x, h.Holds g (.object id) x → SideBySide f f' x) :
    Counting.Related IsPruningOf (captureParts f g h limits id (h.kind (.object id)))
      (captureParts f' g h limits' id (h.kind (.object id))) := by
  have hitems : ∀ xs, (h.kind (.object id)).shape = .sequence xs → ∀ x ∈ xs, SideBySide f f' x :=
    fun xs hxs x hx => hheld x (.item hxs hx)
  cases hk : h.kind (.object id) with
  | error name => exact related_captureError hg hle.length name hheld
  | array xs => exact related_captureElements hle.items _ (hitems xs (hk ▸ rfl))
  | typedArray t xs => exact related_captureElements hle.items _ (hitems xs (hk ▸ rfl))
  | set xs => exact related_captureElements hle.items _ (hitems xs (hk ▸ rfl))
  | map es =>
    have hes : (h.kind (.object id)).shape = .map es := hk ▸ rfl
    exact related_captureEntries hle.items fun e he =>
      ⟨hheld _ (.key hes he), hheld _ (.value hes he)⟩
  | _ => exact related_captureFields hg hle.fields hdistinct hstrings hheld

/-- A value that is not nested is captured as it is, however many levels remain. -/
theorem sideBySide_of_leaf (hlimit : limits.maxLength ≤ limits'.maxLength) {v : Value}
    {c : Captured} (hleaf : captureLeaf? limits (h.kind v) = some c) (levels levels' : Nat) :
    SideBySide (captureWithin g h limits levels) (captureWithin g h limits' levels') v := by
  obtain ⟨c', hleaf', hc⟩ := exists_captureLeaf? hlimit hleaf
  rw [SideBySide, captureWithin_leaf hleaf, captureWithin_leaf hleaf']
  exact .pure hc

/-- Captures with so many levels remaining, by induction on the levels of the lower one. -/
theorem related_captureWithin (hg : g.Steady) (hle : limits.AtMost limits')
    (hdistinct : ∀ id, (h.ownKeys id).Nodup) {levels levels' : Nat} (hlevels : levels ≤ levels')
    {v : Value}
    (hstrings : ∀ id, h.Reaches g v (.object id) → ∀ k ∈ h.ownKeys id, k.string?.isSome) :
    SideBySide (captureWithin g h limits levels) (captureWithin g h limits' levels') v := by
  induction levels generalizing levels' v with
  | zero =>
    cases hleaf : captureLeaf? limits (h.kind v) with
    | some c => exact sideBySide_of_leaf hle.length hleaf _ _
    | none =>
      have hnested := (captureLeaf?_eq_none_iff limits _).1 hleaf
      obtain ⟨id, rfl⟩ := exists_object_of_isNested hnested
      intro n m
      rw [captureWithin_zero hnested]
      exact .depth (type_run_captureWithin hnested levels' m)
  | succ levels ih =>
    cases hleaf : captureLeaf? limits (h.kind v) with
    | some c => exact sideBySide_of_leaf hle.length hleaf _ _
    | none =>
      have hnested := (captureLeaf?_eq_none_iff limits _).1 hleaf
      obtain ⟨id, rfl⟩ := exists_object_of_isNested hnested
      cases levels' with
      | zero => omega
      | succ levels' =>
        rw [SideBySide, captureWithin_succ hnested, captureWithin_succ hnested]
        refine related_captureParts hg hle (hdistinct id) (hstrings id .refl) fun x hx => ?_
        refine ih (by omega) fun id' hreach => hstrings id' (.head hx hreach)

/-! ## Main result -/

/-- **Captures are monotone in their limits.** With getters that answer the same on every call,
and no key but texts on what a value reaches, the capture under lower limits is what these leave
of the one under higher limits, node by node and whatever getters ran before. That keys are
distinct holds of every heap that a program builds (`Heap.Orderly`). -/
theorem capture_monotone (hg : g.Steady) (hdistinct : ∀ id, (h.ownKeys id).Nodup) {v : Value}
    (hstrings : ∀ id, h.Reaches g v (.object id) → ∀ k ∈ h.ownKeys id, k.string?.isSome)
    (hle : limits.AtMost limits') (calls calls' : Nat) :
    ((capture g h limits v).run calls).1.IsPruningOf ((capture g h limits' v).run calls').1 :=
  related_captureWithin hg hle hdistinct hle.depth hstrings calls calls'

/-- An object that comes to itself by a getter, under limits all of which cut something. -/
theorem capture_monotone_of_cycle :
    let g : Getters := ⟨fun _ _ _ receiver => .ok receiver⟩
    let h : Heap := ⟨#[{ kind := .ordinary, properties :=
        ⟨[(.string "self", .accessor 0), (.string "items", .data (.object ⟨1⟩)),
          (.string "text", .data (.string "abc")), (.string "last", .data .null)]⟩ },
      { kind := .array [.bool true, .null] }], 0⟩
    let limits : CaptureLimits :=
      { maxReferenceDepth := 2, maxCollectionSize := 1, maxFieldCount := 3, maxLength := 2 }
    let c := ((capture g h limits (.object ⟨0⟩)).run 0).1
    c.IsPruningOf ((capture g h {} (.object ⟨0⟩)).run 0).1 ∧ c.reason = some .fieldCount ∧
      (c.at? [1]).bind Captured.reason = some .collectionSize ∧
      (c.at? [2]).bind Captured.reason = some .length ∧
      (c.at? [0, 0]).bind Captured.reason = some .depth := by
  intro g h limits c
  have hobject : ∀ id : ObjectId, id = ⟨0⟩ ∨ h.ownKeys id = [] := by
    rintro ⟨_ | _ | i⟩
    · exact Or.inl rfl
    · exact Or.inr rfl
    · exact Or.inr rfl
  refine ⟨capture_monotone (fun _ _ _ _ _ => rfl) (fun id => ?_) (fun id _ => ?_)
    ⟨by decide, by decide, by decide, by decide⟩ 0 0, rfl, rfl, rfl, rfl⟩
  · rcases hobject id with rfl | hnil
    · decide
    · exact hnil ▸ List.nodup_nil
  · rcases hobject id with rfl | hnil
    · decide
    · exact hnil ▸ List.forall_mem_nil _

end Capture

end ProbeEngine
