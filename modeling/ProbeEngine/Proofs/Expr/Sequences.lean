import ProbeEngine.Proofs.Expr.Filters
import ProbeEngine.Proofs.Expr.Indices
import ProbeEngine.Proofs.Expr.Membership
import ProbeEngine.Proofs.Expr.Substring

/-!
# Sequences

A text, an array and a typed array are sequences: they have a length, a member for each index
before it, and items to loop over. All of these are found in their own ways, and **they agree**
(`indexed_views_agree`): of a text they are those of the list of its units, each as a text of one
unit (`textMember_eq`), and of an array those of its elements.
-/

namespace ProbeEngine

open Host (Value Heap PropertyKey ObjectId ElementType)
open Binary64 (integer? ofNat)
open Text
open Text.Utf16 (units between)

namespace Eval

variable {α β : Type}

theorem keep_map (test : β → Eval Bool) (f : α → β) (xs : List α) :
    keep test (xs.map f) = (do
      let kept ← keep (fun x => test (f x)) xs
      pure (kept.map f)) := by
  induction xs with
  | nil => rfl
  | cons x xs ih =>
    rw [List.map_cons, keep, keep, ih]
    simp only [bind_assoc, pure_bind]
    refine bind_congr fun b => bind_congr fun kept => ?_
    cases b <;> rfl

end Eval

namespace Collection

/-! ## Members by index -/

/-- The element of a list at an index, undefined if there is none. -/
def elementAt (xs : List Value) (i : Nat) : Value := xs[i]?.getD .undefined

/-- The units of a text, each as a text. -/
def unitTexts (t : String) : List Value := (units t).map unitText

/-- The member of a sequence of values: its length, or one of the values. -/
def sequenceMember (xs : List Value) (k : PropertyKey) : Value :=
  if k = .string "length" then countValue xs.length
  else ((arrayIndex? k).bind fun i => xs[i]?).getD .undefined

section

variable {h : Heap} {v w : Value} {xs : List Value} {t k : String} {i : Nat} {ofMap : Bool}

theorem length_unitTexts (t : String) : (unitTexts t).length = Utf16.length t := by
  rw [unitTexts, List.length_map, Utf16.length]

theorem elementAt_of_lt (hi : i < xs.length) : elementAt xs i = xs[i] := by
  rw [elementAt, List.getElem?_eq_getElem hi, Option.getD_some]

theorem elementAt_of_le (hi : xs.length ≤ i) : elementAt xs i = .undefined := by
  rw [elementAt, List.getElem?_eq_none hi, Option.getD_none]

theorem map_elementAt_range (xs : List Value) :
    (List.range xs.length).map (elementAt xs) = xs := by
  refine List.ext_getElem (by simp) fun i hi hi' => ?_
  rw [List.getElem_map, List.getElem_range, elementAt_of_lt hi']

/-- A list is gone through by going through its indices. -/
theorem map_eq_map_range {α : Type} (f : Value → α) (xs : List Value) :
    xs.map f = (List.range xs.length).map fun i => f (elementAt xs i) := by
  conv_lhs => rw [← map_elementAt_range xs, List.map_map]
  rfl

theorem keep_eq_keep_range (test : Value → Eval Bool) (xs : List Value) :
    Eval.keep test xs = (do
      let kept ← Eval.keep (fun i => test (elementAt xs i)) (List.range xs.length)
      pure (kept.map (elementAt xs))) := by
  conv_lhs => rw [← map_elementAt_range xs, Eval.keep_map]

/-- The members of a text are those of its units. -/
theorem textMember_eq (t : String) (k : PropertyKey) :
    textMember t k = sequenceMember (unitTexts t) k := by
  rw [textMember, sequenceMember, length_unitTexts]
  split
  · rfl
  · cases arrayIndex? k with
    | none => rfl
    | some i =>
      simp only [Option.bind_some, unitTexts, List.getElem?_map]
      cases (units t)[i]? <;> rfl

/-- A value is the sequence of some values: of the units of a text, or of the elements of an
array that has no properties, of its own or inherited. -/
inductive IsSequence (h : Heap) : Value → List Value → Prop
  | text (t : String) : IsSequence h (.string t) (unitTexts t)
  | array {id : ObjectId} {xs : List Value} (hkind : h.kind (.object id) = .array xs)
      (hbare : ∀ k, h.findProperty? id k = none) : IsSequence h (.object id) xs
  | typedArray {id : ObjectId} {type : ElementType} {xs : List Value}
      (hkind : h.kind (.object id) = .typedArray type xs)
      (hbare : ∀ k, h.findProperty? id k = none) : IsSequence h (.object id) xs

theorem IsSequence.member_eq (hv : IsSequence h v xs) {k : PropertyKey}
    (hk : Coercion.toKey h w = .ok k) : member h v w ofMap = .ok (sequenceMember xs k) := by
  cases hv with
  | text t =>
    rw [← textMember_eq]
    show (Coercion.toKey h w).map (textMember t) = _
    rw [hk]
    rfl
  | array hkind hbare =>
    rw [member, hkind, hk]
    simp only [Except.bind, objectMember, hbare, hkind, builtinMember?, sequenceMember]
    split <;> rfl
  | typedArray hkind hbare =>
    rw [member, hkind, hk]
    simp only [Except.bind, objectMember, hbare, hkind, builtinMember?, sequenceMember]
    split <;> rfl

theorem IsSequence.member_length (hv : IsSequence h v xs) :
    member h v (.string "length") ofMap = .ok (countValue xs.length) := by
  rw [hv.member_eq rfl, sequenceMember, if_pos rfl]

/-- The member of a natural is the element at this index. -/
theorem IsSequence.member_natural (hv : IsSequence h v xs) (hxs : xs.length ≤ UInt64.size)
    (hi : IsNatural w i) : member h v w ofMap = .ok (elementAt xs i) := by
  obtain ⟨k, hk, hlength, hindex⟩ := hi.exists_toKey h
  rw [hv.member_eq hk, sequenceMember, if_neg (by simpa using hlength), hindex]
  split
  · rfl
  · rename_i hword
    rw [elementAt_of_le (by omega)]
    rfl

/-- A text that is not the name of the length selects the element at the index that it is the
canonical decimal of, and no other. -/
theorem IsSequence.member_text (hv : IsSequence h v xs) (hxs : xs.length ≤ UInt64.size)
    (hk : k ≠ "length") :
    (∃ i, ∃ hi : i < xs.length, k = indexText i ∧
        member h v (.string k) ofMap = .ok xs[i]) ∨
      (∀ i < xs.length, k ≠ indexText i) ∧
        member h v (.string k) ofMap = .ok .undefined := by
  rw [hv.member_eq rfl, sequenceMember, if_neg (by simpa using hk)]
  by_cases hindex : ∃ i < xs.length, k = indexText i
  · obtain ⟨i, hi, rfl⟩ := hindex
    refine .inl ⟨i, hi, rfl, ?_⟩
    rw [arrayIndex?_eq_some_iff.2 ⟨by omega, rfl⟩, Option.bind_some, ← elementAt,
      elementAt_of_lt hi]
  · have hnone : ∀ i < xs.length, k ≠ indexText i := fun i hi hik => hindex ⟨i, hi, hik⟩
    refine .inr ⟨hnone, ?_⟩
    cases hread : arrayIndex? (.string k) with
    | none => rfl
    | some i =>
      have hi : xs.length ≤ i :=
        not_lt.1 fun hi => hnone i hi (arrayIndex?_eq_some_iff.1 hread).2
      rw [Option.bind_some, ← elementAt, elementAt_of_le hi]

theorem IsSequence.length_eq (hv : IsSequence h v xs) : length h v = .ok xs.length := by
  cases hv with
  | text t => exact congrArg Except.ok (length_unitTexts t).symm
  | array hkind _ => rw [length, hkind]
  | typedArray hkind _ => rw [length, hkind]

/-! ## Items -/

theorem getElem?_unitEntries (us : List Nat) (i j : Nat) :
    (unitEntries i us)[j]? = us[j]?.map fun u => (.string (indexText (i + j)), unitText u) := by
  induction us generalizing i j with
  | nil => rfl
  | cons u us ih =>
    rw [unitEntries]
    cases j with
    | zero => rfl
    | succ j => rw [List.getElem?_cons_succ, List.getElem?_cons_succ, ih, Nat.add_right_comm]; rfl

/-- The entry that a loop over a text goes through for an index. -/
def unitEntry (t : String) (i : Nat) : Value × Value :=
  (.string (indexText i), elementAt (unitTexts t) i)

theorem unitEntries_eq (t : String) :
    unitEntries 0 (units t) = (List.range (unitTexts t).length).map (unitEntry t) := by
  refine List.ext_getElem? fun i => ?_
  rw [getElem?_unitEntries, Nat.zero_add, List.getElem?_map]
  by_cases hi : i < (unitTexts t).length
  · have hunit : i < (units t).length := by rwa [length_unitTexts] at hi
    rw [List.getElem?_eq_getElem hunit, List.getElem?_range hi, Option.map_some, Option.map_some,
      unitEntry, elementAt_of_lt hi]
    simp only [unitTexts, List.getElem_map]
  · have hunit : (units t).length ≤ i := by rwa [length_unitTexts, not_lt] at hi
    rw [List.getElem?_eq_none hunit, List.getElem?_eq_none (by simpa using hi)]
    rfl

/-- In a text whose length is a double, the substring from an index to the next one is the
element at the index, a text of one unit. -/
theorem substring_unit {x y : Float}
    (hn : integer? (ofNat (Utf16.length t)) = some (Utf16.length t : Int))
    (hx : Coercion.toNumber h v = .ok x) (hxi : integer? x = some (i : Int))
    (hy : Coercion.toNumber h w = .ok y) (hyi : integer? y = some (i + 1 : Nat))
    (hi : i < (unitTexts t).length) :
    ∃ u, (unitTexts t)[i] = .string u ∧ Utf16.length u = 1 ∧ substring h t v w = .ok u := by
  have hunit : i < (units t).length := by rwa [length_unitTexts] at hi
  refine ⟨between t i (i + 1), ?_, ?_, ?_⟩
  · rw [Utf16.between_succ hunit]
    simp only [unitTexts, List.getElem_map, unitText]
  · rw [Utf16.length_between hunit.le hunit]
    omega
  · rw [substring_of_toNumber t hx hy, endOf_of_integer? hy hyi, offsetOf_of_le hn hxi hunit.le,
      offsetOf_of_le hn hyi hunit]

end

end Collection

namespace Expr

open Collection

variable {c p : Expr} {s : Scope} {h h₁ : Heap} {v : Value} {items : Items} {n : Nat}
  {binding : Nat → LoopBinding}

theorem eval_any_of_items (hc : eval c s h = .ok (v, h₁))
    (hitems : Collection.items h₁ v = .ok items)
    (hbindings : items.bindings = (List.range n).map binding) (p : Expr) :
    eval (.any c p) s h =
      (Eval.anyOf (fun i => truth p (s.bind (binding i))) (List.range n) h₁).map
        fun r => (.bool r.1, r.2) := by
  rw [eval_any, loop_apply hc hitems, hbindings, ← Eval.anyOf_eq_search, Eval.anyOf_map]

theorem eval_all_of_items (hc : eval c s h = .ok (v, h₁))
    (hitems : Collection.items h₁ v = .ok items)
    (hbindings : items.bindings = (List.range n).map binding) (p : Expr) :
    eval (.all c p) s h =
      (Eval.allOf (fun i => truth p (s.bind (binding i))) (List.range n) h₁).map
        fun r => (.bool r.1, r.2) := by
  rw [eval_all, loop_apply hc hitems, hbindings, ← Eval.allOf_eq_search, Eval.allOf_map]

/-- The views of a sequence of values by index, with what a loop binds for an index and what a
filter makes of the indices that it keeps. -/
structure ViewsAgree (c : Expr) (s : Scope) (h h₁ : Heap) (xs : List Value)
    (binding : Nat → LoopBinding) (collect : List Nat → Eval Value) : Prop where
  /-- The member with the name of the length is the length. -/
  length : eval (.length c) s h = .ok (countValue xs.length, h₁) ∧
    ∀ {a}, eval a s h₁ = .ok (.string "length", h₁) →
      eval (.member c a) s h = .ok (countValue xs.length, h₁)
  /-- The member of an index is the value at it, and undefined beyond the end. -/
  index : ∀ {a w i}, eval a s h₁ = .ok (w, h₁) → IsNatural w i →
    (∀ hi : i < xs.length, eval (.index c a) s h = .ok (xs[i], h₁)) ∧
      (xs.length ≤ i → eval (.index c a) s h = .ok (.undefined, h₁))
  /-- Any other text selects a value only if it is the canonical decimal of the index. -/
  text : ∀ {a k}, eval a s h₁ = .ok (.string k, h₁) → k ≠ "length" →
    (∃ i, ∃ hi : i < xs.length, k = indexText i ∧ eval (.index c a) s h = .ok (xs[i], h₁)) ∨
      (∀ i < xs.length, k ≠ indexText i) ∧ eval (.index c a) s h = .ok (.undefined, h₁)
  /-- Loops go through the indices in order. -/
  any : ∀ p, eval (.any c p) s h =
    (Eval.anyOf (fun i => truth p (s.bind (binding i))) (List.range xs.length) h₁).map
      fun r => (.bool r.1, r.2)
  all : ∀ p, eval (.all c p) s h =
    (Eval.allOf (fun i => truth p (s.bind (binding i))) (List.range xs.length) h₁).map
      fun r => (.bool r.1, r.2)
  filter : ∀ p, eval (.filter c p) s h =
    (Eval.keep (fun i => truth p (s.bind (binding i))) (List.range xs.length) >>= collect) h₁

theorem eval_length_of_ok {m : Nat} (hc : eval c s h = .ok (v, h₁))
    (hm : Collection.length h₁ v = .ok m) : eval (.length c) s h = .ok (countValue m, h₁) := by
  rw [eval, Eval.bind_apply_of_ok hc, Eval.reading_bind_apply, hm]
  rfl

theorem eval_member_of_ok {a : Expr} {w r : Value} (hc : eval c s h = .ok (v, h₁))
    (ha : eval a s h₁ = .ok (w, h₁)) (hr : Collection.member h₁ v w false = .ok r) :
    eval (.member c a) s h = .ok (r, h₁) := by
  rw [eval, Eval.bind_apply_of_ok hc, Eval.bind_apply_of_ok ha, Eval.reading, hr]
  rfl

/-- The views of a sequence agree if its items are found index by index. -/
theorem viewsAgree_of_isSequence {xs : List Value} {collect : List Nat → Eval Value}
    (hc : eval c s h = .ok (v, h₁)) (hv : IsSequence h₁ v xs) (hxs : xs.length ≤ UInt64.size)
    (hitems : Collection.items h₁ v = .ok items)
    (hbindings : items.bindings = (List.range xs.length).map binding)
    (hgathered : ∀ words test, items.gathered words test =
      Eval.keep (fun i => test (binding i)) (List.range xs.length) >>= collect) :
    ViewsAgree c s h h₁ xs binding collect where
  length := ⟨eval_length_of_ok hc hv.length_eq, fun ha => eval_member_of_ok hc ha hv.member_length⟩
  index ha hi := by
    have hmember := eval_index_of_ok hc ha (hv.member_natural hxs hi)
    refine ⟨fun hlt => ?_, fun hle => ?_⟩
    · rw [hmember, elementAt_of_lt hlt]
    · rw [hmember, elementAt_of_le hle]
  text ha hk := by
    obtain ⟨i, hi, hik, hmember⟩ | ⟨hnone, hmember⟩ := hv.member_text hxs hk
    · exact .inl ⟨i, hi, hik, eval_index_of_ok hc ha hmember⟩
    · exact .inr ⟨hnone, eval_index_of_ok hc ha hmember⟩
  any := eval_any_of_items hc hitems hbindings
  all := eval_all_of_items hc hitems hbindings
  filter p := by
    rw [eval_filter, Eval.bind_apply_of_ok hc, Eval.reading_bind_apply, hitems]
    show items.gathered h₁ (fun b => truth p (s.bind b)) h₁ = _
    rw [hgathered]

/-- **The views of a sequence by index agree.** Those of a text are of its units, each as a text
of one unit, which is the substring from its index to the next one; a loop binds the decimal of
the index and the unit. Those of an array or a typed array without properties, of its own or
inherited, are of its elements, and a loop binds the element. Any length is a number that a
machine word holds, and that of a text which is cut is a double as well. -/
theorem indexed_views_agree {c : Expr} {s : Scope} {h h₁ : Heap} {v : Value}
    (hc : eval c s h = .ok (v, h₁)) :
    (∀ t, v = .string t → Utf16.length t ≤ UInt64.size →
      (unitTexts t).length = Utf16.length t ∧
      ViewsAgree c s h h₁ (unitTexts t)
        (fun i => .entry (.string (indexText i)) (elementAt (unitTexts t) i))
        (fun kept => Eval.allocateRecord
          (kept.map fun i => (indexText i, elementAt (unitTexts t) i))) ∧
      (integer? (ofNat (Utf16.length t)) = some (Utf16.length t : Int) →
        ∀ {a b w w' x y} {i : Nat}, Offset a s h₁ w x → integer? x = some (i : Int) →
          Offset b s h₁ w' y → integer? y = some (i + 1 : Nat) →
          ∀ hi : i < (unitTexts t).length,
            ∃ u, (unitTexts t)[i] = .string u ∧ Utf16.length u = 1 ∧
              eval (.substring c a b) s h = .ok (.string u, h₁))) ∧
    ∀ id xs, v = .object id → (∀ k, h₁.findProperty? id k = none) →
      xs.length ≤ UInt64.size →
      (h₁.kind v = .array xs →
        ViewsAgree c s h h₁ xs (fun i => .item (elementAt xs i))
          (fun kept => Eval.allocate (.array (kept.map (elementAt xs))))) ∧
      ∀ type, h₁.kind v = .typedArray type xs →
        ViewsAgree c s h h₁ xs (fun i => .item (elementAt xs i))
          (fun kept => Eval.allocate (.typedArray type (kept.map (elementAt xs)))) := by
  refine ⟨?_, ?_⟩
  · rintro t rfl hword
    have hxs : (unitTexts t).length ≤ UInt64.size := by rwa [length_unitTexts]
    have hitems : Collection.items h₁ (.string t) =
        .ok (.properties ((List.range (unitTexts t).length).map (unitEntry t))) := by
      rw [← unitEntries_eq]
      rfl
    refine ⟨length_unitTexts t, viewsAgree_of_isSequence hc (.text t) hxs hitems ?_ ?_, ?_⟩
    · simp only [Items.bindings, List.map_map]
      rfl
    · intro words test
      simp only [Items.gathered, Eval.keep_map, bind_assoc, pure_bind, List.map_map]
      rfl
    · intro hn a b w w' x y i ha hx hb hy hi
      obtain ⟨u, hu, hlength, hsubstring⟩ :=
        substring_unit hn ha.toNumber_eq hx hb.toNumber_eq hy hi
      exact ⟨u, hu, hlength, eval_substring_of_ok hc ha.eval_eq hb.eval_eq hsubstring⟩
  · rintro id xs rfl hbare hxs
    refine ⟨fun hkind => ?_, fun type hkind => ?_⟩
    · have hitems : Collection.items h₁ (.object id) = .ok (.elements xs) := by
        rw [Collection.items, hkind]
      refine viewsAgree_of_isSequence hc (.array hkind hbare) hxs hitems
        (map_eq_map_range LoopBinding.item xs) fun words test => ?_
      rw [Items.gathered, keep_eq_keep_range]
      simp only [bind_assoc, pure_bind]
    · have hitems : Collection.items h₁ (.object id) = .ok (.typed type xs) := by
        rw [Collection.items, hkind]
      refine viewsAgree_of_isSequence hc (.typedArray hkind hbare) hxs hitems
        (map_eq_map_range LoopBinding.item xs) fun words test => ?_
      rw [Items.gathered, keep_eq_keep_range]
      simp only [bind_assoc, pure_bind]

/-- The second unit of a text opens a surrogate pair, and its views are of one text of one unit;
an array of two elements has one at `1` and none at `2`. -/
theorem indexed_views_of_surrogate :
    let c : Expr := .literal (.string "a😀")
    let d : Expr := .literal (.object ⟨0⟩)
    let offset : Int → Expr := fun k => .literal (.number (Binary64.ofInt k))
    let s : Scope := { context := OrderedTable.ofList [] }
    let h : Heap := ⟨#[{ kind := .array [.null, .bool true] }], 0⟩
    (∃ u, Utf16.length u = 1 ∧ eval (.index c (offset 1)) s h = .ok (.string u, h) ∧
      eval (.substring c (offset 1) (offset 2)) s h = .ok (.string u, h)) ∧
    eval (.index d (offset 1)) s h = .ok (.bool true, h) ∧
    eval (.index d (offset 2)) s h = .ok (.undefined, h) := by
  intro c d offset s h
  have hinteger : ∀ i : Nat, i < 2 ^ 53 → integer? (Binary64.ofInt i) = some (i : Int) :=
    fun i hi => Binary64.integer?_ofInt (by simpa using hi)
  have hoffset : ∀ k : Int, Offset (offset k) s h (.number (Binary64.ofInt k)) (Binary64.ofInt k) :=
    fun k => ⟨rfl, rfl⟩
  obtain ⟨-, htext, hunits⟩ :=
    (indexed_views_agree (c := c) (s := s) (h := h) rfl).1 _ rfl (by decide +kernel)
  have hlength : integer? (ofNat (Utf16.length "a😀")) = some (Utf16.length "a😀" : Int) := by
    rw [Binary64.ofNat_eq_ofInt]
    exact Binary64.integer?_ofInt (by decide +kernel)
  have hlt : 1 < (unitTexts "a😀").length := by decide +kernel
  obtain ⟨u, hu, hone, hsubstring⟩ :=
    hunits hlength (i := 1) (hoffset 1) (hinteger 1 (by decide)) (hoffset 2)
      (hinteger 2 (by decide)) hlt
  have hindex := (htext.index (a := offset 1) rfl (.number (hinteger 1 (by decide)))).1 hlt
  rw [hu] at hindex
  have harray := ((indexed_views_agree (c := d) (s := s) (h := h) rfl).2 ⟨0⟩ [.null, .bool true]
    rfl (fun k => rfl) (by decide +kernel)).1 rfl
  exact ⟨⟨u, hone, hindex, hsubstring⟩,
    (harray.index (a := offset 1) rfl (.number (hinteger 1 (by decide)))).1 (by decide),
    (harray.index (a := offset 2) rfl (.number (hinteger 2 (by decide)))).2 (by decide)⟩

end Expr

end ProbeEngine
