import ProbeEngine.Expr.Compile
import ProbeEngine.Expr.Eval
import ProbeEngine.Proofs.Results

/-!
# Conversions

An operation that needs a text, a number or a key turns one of its operands into one
(`Converts`). An object could have a say in this by a coercion method, own or inherited
(`OffersMethod`); no such method is called.

* `eval_of_refused`, `refused_of_eval` — an operation whose operands have values is refused
  exactly if one of the values that it converts has a method itself;
* `conversions_refuse_methods` — so **conversions are never silent** exactly if one is refused,
  or no array that is converted has an element, at any depth, with a method. The text of an
  array is made of those of its elements, and these are not asked.
-/

namespace ProbeEngine

open Host (Value Heap PropertyKey ObjectId Kind)

/-! ## Coercion methods -/

namespace Coercion

/-- An object that has a coercion method, itself or by its prototypes, whatever property
stands under the key of it. -/
def OffersMethod (h : Heap) (id : ObjectId) : Prop :=
  ∃ o ∈ h.chain (some id), ∃ key ∈ methodKeys, ∃ p, h.ownProperty? o key = some p

theorem hasMethod_iff {h : Heap} {id : ObjectId} : hasMethod h id = true ↔ OffersMethod h id := by
  -- which object comes first on the chain decides which property is found, not whether one is
  have hfind : ∀ key, (h.findProperty? id key).isSome = true ↔
      ∃ o ∈ h.chain (some id), ∃ p, h.ownProperty? o key = some p := by
    intro key
    rw [Heap.findProperty?, List.findSome?_isSome_iff]
    simp only [Option.isSome_iff_exists]
  simp only [hasMethod, List.any_eq_true, hfind, OffersMethod]
  constructor
  · rintro ⟨key, hkey, o, ho, p, hp⟩
    exact ⟨o, ho, key, hkey, p, hp⟩
  · rintro ⟨o, ho, key, hkey, p, hp⟩
    exact ⟨key, hkey, o, ho, p, hp⟩

/-- A value that is an object with a coercion method. -/
def Refused (h : Heap) (v : Value) : Prop := ∃ id, v = .object id ∧ OffersMethod h id

/-- The objects that the text of a value is made of: the value, and of an array what its
elements are made of. -/
inductive Holds (h : Heap) : Value → ObjectId → Prop
  | self (id : ObjectId) : Holds h (.object id) id
  | element {v x : Value} {xs : List Value} {id : ObjectId} (hv : h.kind v = .array xs)
      (hx : x ∈ xs) (hid : Holds h x id) : Holds h v id

variable {h : Heap} {v w : Value}

/-! ## What is refused -/

theorem guardValue_eq_coercion_iff : guardValue h v = .error .coercion ↔ Refused h v := by
  cases v with
  | object id => simp [guardValue, Refused, ← hasMethod_iff]
  | _ => simp [guardValue, Refused]

theorem guardValue_eq_ok_iff : guardValue h v = .ok () ↔ ¬ Refused h v := by
  cases v with
  | object id => simp [guardValue, Refused, ← hasMethod_iff]
  | _ => simp [guardValue, Refused]

theorem toText_eq_coercion_iff : toText h v = .error .coercion ↔ Refused h v := by
  cases v with
  | object id => simp [toText, bind_eq_error_iff, guardValue_eq_coercion_iff]
  | _ => simp [toText, Refused]

theorem toNumber_eq_coercion_iff : toNumber h v = .error .coercion ↔ Refused h v := by
  cases v with
  | object id => simp [toNumber, bind_eq_error_iff, guardValue_eq_coercion_iff]
  | _ => simp [toNumber, Refused]

theorem toKey_eq_coercion_iff : toKey h v = .error .coercion ↔ Refused h v := by
  cases v with
  | object id => simp [toKey, map_eq_error_iff, toText_eq_coercion_iff]
  | _ => simp [toKey, Refused]

/-- A primitive value is no object. -/
theorem not_refused_toPrimitive : ¬ Refused h (toPrimitive h v) := by
  rintro ⟨id, hid, -⟩
  unfold toPrimitive at hid
  split at hid
  · split at hid <;> cases hid
  · rename_i hv
    exact hv id hid

/-- Once both values are primitive, comparing them asks no object. -/
theorem compareValues_ne_coercion : compareValues h v w ≠ .error .coercion := by
  have hnumber : ∀ u, toNumber h (toPrimitive h u) ≠ .error .coercion :=
    fun u hu => not_refused_toPrimitive (toNumber_eq_coercion_iff.1 hu)
  unfold compareValues
  split
  · simp
  · simp
  · rw [ne_eq, bind_eq_error_iff]
    rintro (hv | ⟨x, -, hx⟩)
    · exact hnumber v hv
    · exact hnumber w ((bind_eq_error_iff_left (by simp)).1 hx)

theorem expectText_ne_coercion : expectText h v ≠ .error .coercion := by
  unfold expectText
  split <;> simp

end Coercion

namespace Collection

open Coercion

variable {h : Heap} {v w : Value}

theorem clampOffset_eq_coercion_iff {len : Nat} :
    clampOffset h v len = .error .coercion ↔ Refused h v := by
  rw [clampOffset, map_eq_error_iff, toNumber_eq_coercion_iff]

theorem clampEnd_eq_coercion_iff {len : Nat} :
    clampEnd h v len = .error .coercion ↔ Refused h v := by
  unfold clampEnd
  split
  · simp [Refused]
  · exact clampOffset_eq_coercion_iff

theorem exists_clampOffset_eq_ok_iff (len : Nat) :
    (∃ i, clampOffset h v len = .ok i) ↔ ∃ x, toNumber h v = .ok x := by
  rw [clampOffset]
  cases toNumber h v <;> simp [Except.map]

theorem substring_eq_coercion_iff {s : String} :
    substring h s v w = .error .coercion ↔
      Refused h v ∨ (∃ x, toNumber h v = .ok x) ∧ Refused h w := by
  rw [← exists_clampOffset_eq_ok_iff (Text.Utf16.units s).length, ← exists_and_right]
  simp [substring, bind_eq_error_iff, clampOffset_eq_coercion_iff, clampEnd_eq_coercion_iff]

/-- A text contains an item if it holds the text of it. -/
theorem contains_string_eq_coercion_iff {s : String} :
    contains h (.string s) w = .error .coercion ↔ Refused h w := by
  simp [contains, Heap.kind, map_eq_error_iff, toText_eq_coercion_iff]

/-- Whether the members of a value are known by texts and symbols. The entries of a map are
known by any values, and a primitive value other than a text has no members. -/
def hasKeys (h : Heap) (v : Value) : Bool :=
  match h.kind v with
  | .map _ | .weakMap _ | .bool _ | .number _ | .bigint _ | .symbol _ => false
  | _ => true

theorem objectMember_ne_coercion {key : PropertyKey} :
    objectMember h v key ≠ .error .coercion := by
  unfold objectMember
  split
  · split <;> simp
  · simp

theorem member_eq_coercion_iff {ofMap : Bool} (hv : hasKeys h v = true) :
    member h v w ofMap = .error .coercion ↔ Refused h w := by
  rw [← toKey_eq_coercion_iff]
  unfold hasKeys at hv
  unfold member
  split
  · exact bind_eq_error_iff_left (by simp)
  · exact bind_eq_error_iff_left (by simp)
  · simp_all
  · simp_all
  · exact map_eq_error_iff
  · simp_all
  · simp_all
  · simp_all
  · simp_all
  · exact bind_eq_error_iff_left fun _ => objectMember_ne_coercion

end Collection

open Coercion Collection

namespace Eval

variable {α β : Type} {h h₁ : Heap}

theorem bind_apply_of_ok {x : Eval α} {a : α} (hx : x h = .ok (a, h₁)) (f : α → Eval β) :
    (x >>= f) h = f a h₁ := by
  show (x h).bind (fun r => f r.1 r.2) = f a h₁
  rw [hx]
  rfl

theorem reading_bind_apply (g : Heap → Except EvalError α) (f : α → Eval β) :
    (reading g >>= f) h = (g h).bind fun a => f a h := by
  show ((g h).map fun a => (a, h)).bind (fun r => f r.1 r.2) = (g h).bind fun a => f a h
  cases g h <;> rfl

/-- What is done with the answer of the heap does not fail. -/
theorem reading_pure_eq_error_iff {g : Heap → Except EvalError α} {f : α → β} {err : EvalError} :
    (reading g >>= fun a => pure (f a)) h = .error err ↔ g h = .error err := by
  rw [reading_bind_apply]
  exact bind_eq_error_iff_left fun a => by rintro ⟨⟩

end Eval

namespace Expr

/-! ## Operations that convert -/

/-- An operation whose operands have values, and one of these that it turns into a text, a
number or a key, with the heap as it is then. A comparison converts both of its operands. A
substring converts its ends once there is a text, the second one if the first is a number. -/
inductive Converts : Expr → Scope → Heap → Value → Heap → Prop
  | left {order : Comparison} {l r : Expr} {s : Scope} {h h₁ h₂ : Heap} {v w : Value}
      (hl : eval l s h = .ok (v, h₁)) (hr : eval r s h₁ = .ok (w, h₂)) :
      Converts (.compare order l r) s h v h₁
  | right {order : Comparison} {l r : Expr} {s : Scope} {h h₁ h₂ : Heap} {v w : Value}
      (hl : eval l s h = .ok (v, h₁)) (hr : eval r s h₁ = .ok (w, h₂)) :
      Converts (.compare order l r) s h w h₂
  | start {e start : Expr} {s : Scope} {h h₁ h₂ : Heap} {v w : Value}
      (he : eval e s h = .ok (v, h₁)) (hw : eval start s h₁ = .ok (w, h₂)) :
      Converts (.startsWith e start) s h w h₂
  | ending {e ending : Expr} {s : Scope} {h h₁ h₂ : Heap} {v w : Value}
      (he : eval e s h = .ok (v, h₁)) (hw : eval ending s h₁ = .ok (w, h₂)) :
      Converts (.endsWith e ending) s h w h₂
  | item {collection item : Expr} {s : Scope} {h h₁ h₂ : Heap} {t : String} {w : Value}
      (hc : eval collection s h = .ok (.string t, h₁)) (hi : eval item s h₁ = .ok (w, h₂)) :
      Converts (.contains collection item) s h w h₂
  | startOffset {e start finish : Expr} {s : Scope} {h h₁ h₂ h₃ : Heap} {t : String}
      {i j : Value} (he : eval e s h = .ok (.string t, h₁))
      (hi : eval start s h₁ = .ok (i, h₂)) (hj : eval finish s h₂ = .ok (j, h₃)) :
      Converts (.substring e start finish) s h i h₃
  | endOffset {e start finish : Expr} {s : Scope} {h h₁ h₂ h₃ : Heap} {t : String}
      {i j : Value} {x : Float} (he : eval e s h = .ok (.string t, h₁))
      (hi : eval start s h₁ = .ok (i, h₂)) (hj : eval finish s h₂ = .ok (j, h₃))
      (hx : toNumber h₃ i = .ok x) : Converts (.substring e start finish) s h j h₃
  | memberKey {target key : Expr} {s : Scope} {h h₁ h₂ : Heap} {v w : Value}
      (ht : eval target s h = .ok (v, h₁)) (hk : eval key s h₁ = .ok (w, h₂))
      (hv : hasKeys h₂ v = true) : Converts (.member target key) s h w h₂
  | indexKey {target key : Expr} {s : Scope} {h h₁ h₂ : Heap} {v w : Value}
      (ht : eval target s h = .ok (v, h₁)) (hk : eval key s h₁ = .ok (w, h₂))
      (hv : hasKeys h₂ v = true) : Converts (.index target key) s h w h₂

variable {e l r start finish collection item target key : Expr} {order : Comparison} {s : Scope}
  {h h₁ h₂ h₃ : Heap} {v w i j : Value} {t : String}

/-! ## One operation -/

/-- A number needs no guard. -/
theorem not_refused_of_isNumberLiteral (hl : l.isNumberLiteral = true)
    (hv : eval l s h = .ok (v, h₁)) : ¬ Refused h₁ v := by
  unfold isNumberLiteral at hl
  split at hl
  · rw [eval] at hv
    cases hv
    simp [Refused]
  · cases hl

/-- An operand of a comparison is refused, or else what follows decides. -/
theorem guarded_eq_coercion_iff {next : Unit → Eval Value} (hl : eval l s h = .ok (v, h₁)) :
    (if (!l.isNumberLiteral) = true then (do
      let u ← Eval.reading fun heap => guardValue heap v
      next u) else next ()) h₁ = .error .coercion ↔
      Refused h₁ v ∨ next () h₁ = .error .coercion := by
  cases hnumber : l.isNumberLiteral with
  | true => simp [not_refused_of_isNumberLiteral hnumber hl]
  | false =>
    simp only [Bool.not_false, if_true, Eval.reading_bind_apply]
    by_cases hv : Refused h₁ v
    · rw [guardValue_eq_coercion_iff.2 hv]
      exact ⟨fun _ => .inl hv, fun _ => rfl⟩
    · rw [guardValue_eq_ok_iff.2 hv]
      exact ⟨.inr, fun hnext => hnext.resolve_left hv⟩

theorem compare_eq_coercion_iff (hl : eval l s h = .ok (v, h₁)) (hr : eval r s h₁ = .ok (w, h₂)) :
    eval (.compare order l r) s h = .error .coercion ↔ Refused h₁ v ∨ Refused h₂ w := by
  rw [eval, Eval.bind_apply_of_ok hl, guarded_eq_coercion_iff hl, Eval.bind_apply_of_ok hr,
    guarded_eq_coercion_iff hr, Eval.reading_pure_eq_error_iff]
  simp only [compareValues_ne_coercion, or_false]

/-- An argument is turned into a text before it is seen whether there is a text to search. -/
theorem search_eq_coercion_iff {f : String → String → Value} :
    (do
      let t ← Eval.reading fun heap => toText heap w
      let text ← Eval.reading fun heap => expectText heap v
      pure (f text t) : Eval Value) h = .error .coercion ↔ Refused h w := by
  rw [Eval.reading_bind_apply, ← toText_eq_coercion_iff]
  exact bind_eq_error_iff_left fun t =>
    Eval.reading_pure_eq_error_iff.not.2 expectText_ne_coercion

theorem startsWith_eq_coercion_iff (he : eval e s h = .ok (v, h₁))
    (hw : eval start s h₁ = .ok (w, h₂)) :
    eval (.startsWith e start) s h = .error .coercion ↔ Refused h₂ w := by
  rw [eval, Eval.bind_apply_of_ok he, Eval.bind_apply_of_ok hw]
  exact search_eq_coercion_iff

theorem endsWith_eq_coercion_iff (he : eval e s h = .ok (v, h₁))
    (hw : eval finish s h₁ = .ok (w, h₂)) :
    eval (.endsWith e finish) s h = .error .coercion ↔ Refused h₂ w := by
  rw [eval, Eval.bind_apply_of_ok he, Eval.bind_apply_of_ok hw]
  exact search_eq_coercion_iff

theorem contains_eq_coercion_iff (hc : eval collection s h = .ok (.string t, h₁))
    (hi : eval item s h₁ = .ok (w, h₂)) :
    eval (.contains collection item) s h = .error .coercion ↔ Refused h₂ w := by
  rw [eval, Eval.bind_apply_of_ok hc, Eval.bind_apply_of_ok hi, Eval.reading_pure_eq_error_iff,
    contains_string_eq_coercion_iff]

theorem substring_eq_coercion_iff (he : eval e s h = .ok (.string t, h₁))
    (hi : eval start s h₁ = .ok (i, h₂)) (hj : eval finish s h₂ = .ok (j, h₃)) :
    eval (.substring e start finish) s h = .error .coercion ↔
      Refused h₃ i ∨ (∃ x, toNumber h₃ i = .ok x) ∧ Refused h₃ j := by
  rw [eval, Eval.bind_apply_of_ok he, Eval.bind_apply_of_ok hi, Eval.bind_apply_of_ok hj,
    Eval.reading_bind_apply, ← Collection.substring_eq_coercion_iff (s := t)]
  exact Eval.reading_pure_eq_error_iff

theorem member_eq_coercion_iff (ht : eval target s h = .ok (v, h₁))
    (hk : eval key s h₁ = .ok (w, h₂)) (hv : hasKeys h₂ v = true) :
    eval (.member target key) s h = .error .coercion ↔ Refused h₂ w := by
  rw [eval, Eval.bind_apply_of_ok ht, Eval.bind_apply_of_ok hk, Eval.reading, map_eq_error_iff,
    Collection.member_eq_coercion_iff hv]

theorem index_eq_coercion_iff (ht : eval target s h = .ok (v, h₁))
    (hk : eval key s h₁ = .ok (w, h₂)) (hv : hasKeys h₂ v = true) :
    eval (.index target key) s h = .error .coercion ↔ Refused h₂ w := by
  rw [eval, Eval.bind_apply_of_ok ht, Eval.bind_apply_of_ok hk, Eval.reading, map_eq_error_iff,
    Collection.member_eq_coercion_iff hv]

/-- An operation that comes to convert an object with a coercion method is refused. -/
theorem eval_of_refused (hc : Converts e s h v h₁) (hv : Refused h₁ v) :
    eval e s h = .error .coercion := by
  cases hc with
  | left hl hr => exact (compare_eq_coercion_iff hl hr).2 (.inl hv)
  | right hl hr => exact (compare_eq_coercion_iff hl hr).2 (.inr hv)
  | start he hw => exact (startsWith_eq_coercion_iff he hw).2 hv
  | ending he hw => exact (endsWith_eq_coercion_iff he hw).2 hv
  | item hc hi => exact (contains_eq_coercion_iff hc hi).2 hv
  | startOffset he hi hj => exact (substring_eq_coercion_iff he hi hj).2 (.inl hv)
  | endOffset he hi hj hx => exact (substring_eq_coercion_iff he hi hj).2 (.inr ⟨⟨_, hx⟩, hv⟩)
  | memberKey ht hk hkeys => exact (member_eq_coercion_iff ht hk hkeys).2 hv
  | indexKey ht hk hkeys => exact (index_eq_coercion_iff ht hk hkeys).2 hv

/-- If an operation whose operands have values is refused, it is for one that it converts. -/
theorem refused_of_eval (hc : Converts e s h v h₁) (he : eval e s h = .error .coercion) :
    ∃ w h', Converts e s h w h' ∧ Refused h' w := by
  cases hc with
  | left hl hr | right hl hr =>
    rcases (compare_eq_coercion_iff hl hr).1 he with hv | hw
    · exact ⟨_, _, .left hl hr, hv⟩
    · exact ⟨_, _, .right hl hr, hw⟩
  | start hv hw => exact ⟨_, _, .start hv hw, (startsWith_eq_coercion_iff hv hw).1 he⟩
  | ending hv hw => exact ⟨_, _, .ending hv hw, (endsWith_eq_coercion_iff hv hw).1 he⟩
  | item hc hi => exact ⟨_, _, .item hc hi, (contains_eq_coercion_iff hc hi).1 he⟩
  | startOffset ht hi hj | endOffset ht hi hj _ =>
    rcases (substring_eq_coercion_iff ht hi hj).1 he with hstart | ⟨⟨x, hx⟩, hend⟩
    · exact ⟨_, _, .startOffset ht hi hj, hstart⟩
    · exact ⟨_, _, .endOffset ht hi hj hx, hend⟩
  | memberKey ht hk hkeys =>
    exact ⟨_, _, .memberKey ht hk hkeys, (member_eq_coercion_iff ht hk hkeys).1 he⟩
  | indexKey ht hk hkeys =>
    exact ⟨_, _, .indexKey ht hk hkeys, (index_eq_coercion_iff ht hk hkeys).1 he⟩

/-! ## Silent conversions -/

/-- No conversion of an operation is silent: it succeeds only if no object that a converted
text, number or key is made of has a coercion method, and is refused if one of them has. -/
structure NoSilentConversion (e : Expr) (s : Scope) (h : Heap) : Prop where
  unasked : ∀ r, eval e s h = .ok r → ∀ v h' id, Converts e s h v h' → Holds h' v id →
    ¬ OffersMethod h' id
  refused : ∀ v h' id, Converts e s h v h' → Holds h' v id → OffersMethod h' id →
    eval e s h = .error .coercion

/-- **Conversions refuse objects with coercion methods, but not what arrays hold.** An
operation whose operands have values is refused exactly if one of the values that it converts
is an object with a method. So its conversions are never silent exactly if one of them is
refused, or none of the objects that they look into has a method: an array without a method
is converted whatever its elements have. -/
theorem conversions_refuse_methods {e : Expr} {s : Scope} {h h₀ : Heap} {v₀ : Value}
    (hconv : Converts e s h v₀ h₀) :
    (eval e s h = .error .coercion ↔ ∃ v h', Converts e s h v h' ∧ Refused h' v) ∧
      (NoSilentConversion e s h ↔
        (∃ v h', Converts e s h v h' ∧ Refused h' v) ∨
          ∀ v h' id, Converts e s h v h' → Holds h' v id → ¬ OffersMethod h' id) := by
  have herror : eval e s h = .error .coercion ↔ ∃ v h', Converts e s h v h' ∧ Refused h' v :=
    ⟨refused_of_eval hconv, fun ⟨_, _, hc, hv⟩ => eval_of_refused hc hv⟩
  refine ⟨herror, fun hloud => ?_, fun hcases => ?_⟩
  · rw [← herror, or_iff_not_imp_left]
    exact fun hne v h' id hc hid hmethod => hne (hloud.refused v h' id hc hid hmethod)
  · rcases hcases with hrefused | hnone
    · have he := herror.2 hrefused
      exact ⟨fun r hr => by simp [he] at hr, fun _ _ _ _ _ _ => he⟩
    · exact ⟨fun _ _ => hnone, fun v h' id hc hid hmethod => absurd hmethod (hnone v h' id hc hid)⟩

/-- The start of a substring is an array that inherits the method `valueOf`, as an accessor:
the operation is refused, and so nothing is converted silently. -/
theorem conversion_of_inheriting_array :
    let heap : Heap := ⟨#[{ kind := .ordinary
                            properties := OrderedTable.ofList [(.string "valueOf", .accessor 0)] },
      { kind := .array [.number 1], prototype := some ⟨0⟩ }], 0⟩
    let e : Expr := .substring (.literal (.string "text")) (.reference (.variable "offset"))
      (.literal .undefined)
    let s : Scope := { context := OrderedTable.ofList [("offset", .object ⟨1⟩)] }
    Converts e s heap (.object ⟨1⟩) heap ∧ eval e s heap = .error .coercion ∧
      NoSilentConversion e s heap := by
  intro heap e s
  have hconv : Converts e s heap (.object ⟨1⟩) heap :=
    .startOffset (t := "text") (j := .undefined) rfl rfl rfl
  have hrefused : ∃ v h', Converts e s heap v h' ∧ Refused h' v :=
    ⟨_, _, hconv, ⟨1⟩, rfl, hasMethod_iff.1 (by decide +kernel)⟩
  obtain ⟨herror, hloud⟩ := conversions_refuse_methods hconv
  exact ⟨hconv, herror.2 hrefused, hloud.2 (.inl hrefused)⟩

/-- An array that holds an object with the method `toString` is taken for a text: the text
of the object is the one that the host would give it without that method. -/
theorem conversion_of_array_of_object_with_method :
    let node : Json := .object [("startsWith", .array [.string "[object Object]",
      .object [("ref", .string "items")]])]
    let e : Expr := .startsWith (.literal (.string "[object Object]"))
      (.reference (.variable "items"))
    let heap : Heap := ⟨#[{ kind := .function ⟨"toString", "function toString() \x7b \x7d"⟩ },
      { kind := .ordinary
        properties := OrderedTable.ofList [(.string "toString", .data (.object ⟨0⟩))] },
      { kind := .array [.object ⟨1⟩] }], 0⟩
    let context : Context := OrderedTable.ofList [("items", .object ⟨2⟩)]
    compile node = .ok e ∧ e.evaluate context heap = .ok (.bool true, heap) ∧
      ¬ NoSilentConversion e { context := context } heap := by
  intro node e heap context
  have hstarts : Text.startsWith "[object Object]" "[object Object]" = true := by decide +kernel
  have hvalue : e.evaluate context heap = .ok (.bool true, heap) :=
    congrArg (fun b => Except.ok (Value.bool b, heap)) hstarts
  have hconv : Converts e { context := context } heap (.object ⟨2⟩) heap := .start rfl rfl
  have helement : Holds heap (.object ⟨2⟩) ⟨1⟩ := .element rfl (by simp) (.self ⟨1⟩)
  have hmethod : OffersMethod heap ⟨1⟩ := hasMethod_iff.1 (by decide +kernel)
  -- the guard looks at the array, which has no method; its element has one
  refine ⟨rfl, hvalue, fun hloud => ?_⟩
  exact hloud.unasked _ hvalue _ _ _ hconv helement hmethod

end Expr

end ProbeEngine
