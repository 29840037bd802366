import ProbeEngine.Proofs.Expr.Scoping
import ProbeEngine.Proofs.Host.Building

/-!
# Objects that are there

No place that an expression reads of a heap leads out of it: the items of a value are there
(`Collection.below_of_items`), wherever they come from (`Collection.itemsFrom`), and so are its
members (`Collection.below_of_member`). Counts, keys and units of texts are no objects at all.
-/

namespace ProbeEngine

open Host (Value Heap Kind Property PropertyKey ObjectId ElementType)

/-- A value is no object, or it is one of the first so many. -/
def Host.Value.Below (n : Nat) (v : Value) : Prop := ∀ id, v = .object id → id.index < n

theorem Host.Value.Below.mono {m n : Nat} {v : Value} (hv : v.Below m) (hmn : m ≤ n) :
    v.Below n :=
  fun id hid => Nat.lt_of_lt_of_le (hv id hid) hmn

theorem Host.Value.below_of_primitive {n : Nat} {v : Value} (hv : v.object? = none) :
    v.Below n := by
  rintro id rfl
  cases hv

/-- The values that a loop binds for one item. -/
def LoopBinding.values : LoopBinding → List Value
  | .item v => [v]
  | .entry key value => [key, value]

/-- Inside a loop, a value is bound by the loop or around it. -/
theorem Scope.mem_values_or_resolve? {s : Scope} {b : LoopBinding} {r : Reference} {v : Value}
    (hv : (s.bind b).resolve? r = some v) : v ∈ b.values ∨ s.resolve? r = some v := by
  cases b <;> cases r <;> first
    | exact .inr hv
    | exact .inl (by simp [LoopBinding.values, Option.some.inj hv])

/-- A kind that has no items of its own: no text, no collection, nothing that is not there. -/
def Host.Kind.IsOther : Kind → Prop
  | .undefined | .null | .string _ | .array _ | .set _ | .weakSet _ | .typedArray _ _ | .map _
  | .weakMap _ => False
  | _ => True

namespace Collection

variable {h : Heap} {v w : Value}

/-! ## Items -/

/-- Entries under texts. -/
def textEntries (ps : List (String × Value)) : List (Value × Value) :=
  ps.map fun p => (.string p.1, p.2)

/-- Properties are entries if no getter is among them. -/
theorem dataEntries_eq_ok_iff {ps : List (String × Property)} {es : List (Value × Value)} :
    dataEntries ps = .ok es ↔
      ∃ qs : List (String × Value), ps = qs.map (fun q => (q.1, .data q.2)) ∧
        es = textEntries qs := by
  constructor
  · intro hes
    induction ps generalizing es with
    | nil =>
      cases hes
      exact ⟨[], rfl, rfl⟩
    | cons p ps ih =>
      obtain ⟨key, p⟩ := p
      cases p with
      | accessor getter => cases hes
      | data v =>
        obtain ⟨rest, hrest, rfl⟩ := map_eq_ok_iff.1 hes
        obtain ⟨qs, rfl, rfl⟩ := ih hrest
        exact ⟨(key, v) :: qs, rfl, rfl⟩
  · rintro ⟨qs, rfl, rfl⟩
    induction qs with
    | nil => rfl
    | cons q qs ih =>
      rw [List.map_cons, dataEntries, ih]
      rfl

/-- What a value has items from: it holds them, it is a text, or they are the own properties of
an object, none if there is no object. -/
inductive ItemsFrom (h : Heap) (v : Value) : Items → Prop
  | array {xs : List Value} (hkind : h.kind v = .array xs) : ItemsFrom h v (.elements xs)
  | set {xs : List Value} (hkind : h.kind v = .set xs) : ItemsFrom h v (.elements xs)
  | weakSet {xs : List Value} (hkind : h.kind v = .weakSet xs) : ItemsFrom h v (.elements xs)
  | typedArray {t : ElementType} {xs : List Value} (hkind : h.kind v = .typedArray t xs) :
      ItemsFrom h v (.typed t xs)
  | map {es : List (Value × Value)} (hkind : h.kind v = .map es) : ItemsFrom h v (.mapEntries es)
  | weakMap {es : List (Value × Value)} (hkind : h.kind v = .weakMap es) :
      ItemsFrom h v (.mapEntries es)
  | text {s : String} (hkind : h.kind v = .string s) :
      ItemsFrom h v (.properties (unitEntries 0 (Text.Utf16.units s)))
  | properties {id : ObjectId} {qs : List (String × Value)} (hkind : (h.kind v).IsOther)
      (hv : v = .object id)
      (hqs : h.ownStringProperties id = qs.map fun q => (q.1, .data q.2)) :
      ItemsFrom h v (.properties (textEntries qs))
  | primitive (hkind : (h.kind v).IsOther) (hv : v.object? = none) : ItemsFrom h v (.properties [])

theorem itemsFrom_of_other (hkind : (h.kind v).IsOther) {xs : Items}
    (hxs : (ownEntries h v).map Items.properties = .ok xs) : ItemsFrom h v xs := by
  cases v with
  | object id =>
    obtain ⟨es, hes, rfl⟩ := map_eq_ok_iff.1 hxs
    obtain ⟨qs, hqs, rfl⟩ := dataEntries_eq_ok_iff.1 hes
    exact .properties hkind rfl hqs
  | _ =>
    cases hxs
    exact .primitive hkind rfl

/-- **All items come from one of these.** -/
theorem itemsFrom {xs : Items} (hxs : items h v = .ok xs) : ItemsFrom h v xs := by
  rw [items] at hxs
  cases hkind : h.kind v with
  | array ys =>
    rw [hkind] at hxs
    cases hxs
    exact .array hkind
  | set ys =>
    rw [hkind] at hxs
    cases hxs
    exact .set hkind
  | weakSet ys =>
    rw [hkind] at hxs
    cases hxs
    exact .weakSet hkind
  | typedArray t ys =>
    rw [hkind] at hxs
    cases hxs
    exact .typedArray hkind
  | map es =>
    rw [hkind] at hxs
    cases hxs
    exact .map hkind
  | weakMap es =>
    rw [hkind] at hxs
    cases hxs
    exact .weakMap hkind
  | string s =>
    rw [hkind] at hxs
    cases hxs
    exact .text hkind
  | undefined | null =>
    rw [hkind] at hxs
    cases hxs
  | _ =>
    rw [hkind] at hxs
    exact itemsFrom_of_other (by rw [hkind]; trivial) hxs

theorem unitEntries_below {i : Nat} {us : List Nat} {e : Value × Value} (he : e ∈ unitEntries i us)
    (n : Nat) : e.1.Below n ∧ e.2.Below n := by
  induction us generalizing i with
  | nil => cases he
  | cons u us ih =>
    rw [unitEntries] at he
    rcases List.mem_cons.1 he with rfl | he
    · exact ⟨Value.below_of_primitive rfl, Value.below_of_primitive rfl⟩
    · exact ih he

/-- The items of a value are there. -/
theorem below_of_items (hh : h.Orderly) {xs : Items} (hxs : items h v = .ok xs) {b : LoopBinding}
    (hb : b ∈ xs.bindings) (hw : w ∈ b.values) : w.Below h.objects.size := by
  have hcontents : ∀ w ∈ (h.kind v).contents, w.Below h.objects.size :=
    fun w hw => hh.hasValue_of_mem_contents hw
  have helements : ∀ xs : List Value, b ∈ xs.map LoopBinding.item → w ∈ xs := by
    intro xs hb
    obtain ⟨x, hx, rfl⟩ := List.mem_map.1 hb
    rwa [List.mem_singleton.1 hw]
  have hentries : ∀ es : List (Value × Value), b ∈ es.map (fun e => .entry e.1 e.2) →
      ∃ e ∈ es, w ∈ [e.1, e.2] := by
    intro es hb
    obtain ⟨e, he, rfl⟩ := List.mem_map.1 hb
    exact ⟨e, he, hw⟩
  cases itemsFrom hxs with
  | array hkind | set hkind | weakSet hkind | typedArray hkind =>
    rw [hkind] at hcontents
    exact hcontents w (helements _ hb)
  | map hkind | weakMap hkind =>
    rw [hkind] at hcontents
    exact hcontents w (List.mem_flatMap.2 (hentries _ hb))
  | text _ =>
    obtain ⟨e, he, hw⟩ := hentries _ hb
    rcases List.mem_pair.1 hw with rfl | rfl
    · exact (unitEntries_below he _).1
    · exact (unitEntries_below he _).2
  | @properties id qs _ _ hqs =>
    obtain ⟨e, he, hw⟩ := hentries _ hb
    obtain ⟨q, hq, rfl⟩ := List.mem_map.1 he
    rcases List.mem_pair.1 hw with rfl | rfl
    · exact Value.below_of_primitive rfl
    · have hmem : (q.1, Property.data q.2) ∈ h.ownStringProperties id :=
        hqs ▸ List.mem_map_of_mem hq
      exact hh.properties id _ _ (hh.ownProperty?_of_mem hmem)
  | primitive _ _ =>
    obtain ⟨e, he, -⟩ := hentries [] hb
    cases he

/-! ## Members -/

theorem textMember_below (s : String) (key : PropertyKey) (n : Nat) :
    (textMember s key).Below n := by
  unfold textMember
  split
  · exact Value.below_of_primitive rfl
  · split <;> exact Value.below_of_primitive rfl

theorem mapValue_below {n : Nat} {es : List (Value × Value)} (hes : ∀ e ∈ es, e.2.Below n)
    (key : Value) : (mapValue es key).Below n := by
  rw [mapValue]
  cases he : es.find? fun e => e.1.sameValueZero key with
  | none => exact Value.below_of_primitive rfl
  | some e => exact hes e (List.mem_of_find?_eq_some he)

theorem builtinMember?_below {n : Nat} {kind : Kind} (hkind : ∀ w ∈ kind.contents, w.Below n)
    {key : PropertyKey} {u : Value} (hu : builtinMember? kind key = some u) : u.Below n := by
  -- what is no item of a sequence is a count or a text
  have hsequence : ∀ xs : List Value, (∀ w ∈ xs, w.Below n) →
      (if key = .string "length" then some (countValue xs.length)
        else (arrayIndex? key).bind fun i => xs[i]?) = some u → u.Below n := by
    intro xs hxs hu
    split at hu
    · cases hu
      exact Value.below_of_primitive rfl
    · obtain ⟨i, -, hi⟩ := Option.bind_eq_some_iff.1 hu
      exact hxs u (List.mem_of_getElem? hi)
  cases kind with
  | array xs => exact hsequence xs hkind hu
  | typedArray t xs => exact hsequence xs hkind hu
  | set xs | map es | function f | classFunction f | error name | buffer name m =>
    simp only [builtinMember?] at hu
    split at hu
    · cases hu
      exact Value.below_of_primitive rfl
    · cases hu
  | regexp r =>
    simp only [builtinMember?] at hu
    split at hu
    · cases hu
      exact Value.below_of_primitive rfl
    · split at hu
      · cases hu
        exact Value.below_of_primitive rfl
      · cases hu
  | _ => cases hu

theorem below_of_findProperty? (hh : h.Orderly) {id : ObjectId} {key : PropertyKey} {u : Value}
    (hu : h.findProperty? id key = some (.data u)) : u.Below h.objects.size := by
  obtain ⟨o, -, ho⟩ := List.exists_of_findSome?_eq_some hu
  exact hh.properties o key u ho

theorem below_of_objectMember (hh : h.Orderly) {key : PropertyKey} {u : Value}
    (hu : objectMember h v key = .ok u) : u.Below h.objects.size := by
  cases v with
  | object id =>
    rw [objectMember] at hu
    cases hp : h.findProperty? id key with
    | some p =>
      rw [hp] at hu
      cases p with
      | accessor getter => cases hu
      | data w =>
        cases hu
        exact below_of_findProperty? hh hp
    | none =>
      rw [hp] at hu
      cases hb : builtinMember? (h.kind (.object id)) key with
      | none =>
        rw [hb] at hu
        cases hu
        exact Value.below_of_primitive rfl
      | some w =>
        rw [hb] at hu
        cases hu
        exact builtinMember?_below (fun w hw => hh.hasValue_of_mem_contents hw) hb
  | _ =>
    cases hu
    exact Value.below_of_primitive rfl

/-- A member of a value is there. -/
theorem below_of_member (hh : h.Orderly) {key u : Value} {ofMap : Bool}
    (hu : member h v key ofMap = .ok u) : u.Below h.objects.size := by
  have hcontents : ∀ w ∈ (h.kind v).contents, w.Below h.objects.size :=
    fun w hw => hh.hasValue_of_mem_contents hw
  rw [member] at hu
  cases hkind : h.kind v with
  | map es | weakMap es =>
    rw [hkind] at hu hcontents
    cases ofMap with
    | false => cases hu
    | true =>
      cases hu
      exact mapValue_below (fun e he => hcontents e.2 (List.mem_flatMap.2 ⟨e, he, by simp⟩)) key
  | bool _ | number _ | bigint _ | symbol _ =>
    rw [hkind] at hu
    cases hu
    exact Value.below_of_primitive rfl
  | string s =>
    rw [hkind] at hu
    obtain ⟨k, -, rfl⟩ := map_eq_ok_iff.1 hu
    exact textMember_below s k _
  | undefined | null =>
    rw [hkind] at hu
    obtain ⟨k, -, hk⟩ := bind_eq_ok_iff.1 hu
    cases hk
  | _ =>
    rw [hkind] at hu
    obtain ⟨k, -, hk⟩ := bind_eq_ok_iff.1 hu
    exact below_of_objectMember hh hk

end Collection

end ProbeEngine
