import ProbeEngine.Proofs.Expr.Scoping
import ProbeEngine.Proofs.Host.Loops
import ProbeEngine.Proofs.Host.Renaming

/-!
# Questions to a renamed heap

What evaluation asks of a heap has the same answer in one that renames it, with the objects of
the answer renamed: conversions (`Coercion.toText_rename`, `Coercion.compareValues_rename`),
lengths and items (`Collection.length_rename`, `Collection.items_rename`) and members
(`Collection.member_rename`). The text of an array is cut at no depth in either heap, though
the heaps are of different sizes (`Coercion.defaultText_rename`).
-/

namespace ProbeEngine

open Host (Value Heap Kind Property PropertyKey ObjectId ElementType)

variable {ρ : ObjectId → ObjectId} {h k : Heap}

/-! ## Conversions -/

namespace Coercion

/-- More levels than there are objects change no text. -/
theorem defaultTextWithin_eq (hh : h.Orderly) (v : Value) {n : Nat} (hn : h.objects.size ≤ n) :
    defaultTextWithin h (n + 1) v = defaultText h v := by
  by_cases hv : h.HasValue v
  · exact (hasText_defaultTextWithin hh fun id hid => Nat.lt_of_lt_of_le (hv id hid) hn).unique
      (hasText_defaultText hh hv)
  · -- what is not there is no array
    have hother : ∀ xs, h.kind v ≠ .array xs := by
      intro xs hxs
      obtain ⟨id, rfl, hkind⟩ := kind_eq_array_iff.1 hxs
      have hid : ¬ h.Has id := fun hid => hv fun i hi => by
        cases hi
        exact hid
      rw [Heap.object_of_not_has hid] at hkind
      cases hkind
    rw [defaultText, defaultTextWithin_of_ne_array hother n,
      defaultTextWithin_of_ne_array hother h.objects.size]

section

variable (hr : h.Renames ρ k)

include hr

theorem guardValue_rename (v : Value) : guardValue k (v.rename ρ) = guardValue h v := by
  cases v with
  | object id =>
    have hmethod : hasMethod k (ρ id) = hasMethod h id := by
      simp only [hasMethod, hr.findProperty?_rename, Option.isSome_map]
    rw [Value.rename, guardValue, guardValue, hmethod]
  | _ => rfl

theorem typeWord_rename (v : Value) : typeWord k (v.rename ρ) = typeWord h v := by
  cases v with
  | object id => exact hr.constructorName_rename id
  | _ => rfl

theorem expectText_rename (v : Value) : expectText k (v.rename ρ) = expectText h v := by
  cases v with
  | object id =>
    exact congrArg (fun w => Except.error (EvalError.notText w)) (typeWord_rename hr (.object id))
  | _ => rfl

theorem defaultTextWithin_rename (n : Nat) (v : Value) :
    defaultTextWithin k n (v.rename ρ) = defaultTextWithin h n v := by
  induction n generalizing v with
  | zero => exact hr.display_rename v
  | succ n ih =>
    simp only [defaultTextWithin, hr.kind_rename, hr.describeThrown_rename, hr.display_rename]
    cases h.kind v with
    | array xs =>
      simp only [Kind.rename, List.map_map, Function.comp_def, Value.isNullish_rename, ih]
    | date t => cases t <;> rfl
    | _ => rfl

theorem defaultText_rename (v : Value) : defaultText k (v.rename ρ) = defaultText h v := by
  rw [defaultText, defaultTextWithin_rename hr, defaultTextWithin_eq hr.orderly v hr.size_le]

theorem toText_rename (v : Value) : toText k (v.rename ρ) = toText h v := by
  cases v with
  | object id =>
    have hguard := guardValue_rename hr (.object id)
    have htext := defaultText_rename hr (.object id)
    rw [Value.rename] at hguard htext ⊢
    simp only [toText, hguard, htext]
  | _ => rfl

theorem toPrimitive_rename (v : Value) : toPrimitive k (v.rename ρ) = toPrimitive h v := by
  cases v with
  | object id =>
    have hkind := hr.kind_rename (.object id)
    have htext := defaultText_rename hr (.object id)
    rw [Value.rename] at hkind htext ⊢
    simp only [toPrimitive, hkind, htext]
    cases h.kind (.object id) with
    | date t => cases t <;> rfl
    | _ => rfl
  | _ => rfl

theorem toNumber_rename (v : Value) : toNumber k (v.rename ρ) = toNumber h v := by
  cases v with
  | object id =>
    have hguard := guardValue_rename hr (.object id)
    have hprimitive := toPrimitive_rename hr (.object id)
    rw [Value.rename] at hguard hprimitive ⊢
    simp only [toNumber, hguard, hprimitive]
  | _ => rfl

theorem toKey_rename (v : Value) : toKey k (v.rename ρ) = toKey h v := by
  cases v with
  | object id => exact congrArg (Except.map PropertyKey.string) (toText_rename hr (.object id))
  | _ => rfl

theorem toNumber_toPrimitive_rename (v : Value) :
    toNumber k (toPrimitive h v) = toNumber h (toPrimitive h v) := by
  have hsame : (toPrimitive h v).rename ρ = toPrimitive h v := by
    cases v with
    | object id =>
      simp only [toPrimitive]
      cases h.kind (.object id) with
      | date t => cases t <;> rfl
      | _ => rfl
    | _ => rfl
  rw [← toNumber_rename hr, hsame]

theorem compareValues_rename (v w : Value) :
    compareValues k (v.rename ρ) (w.rename ρ) = compareValues h v w := by
  have hv := toNumber_toPrimitive_rename hr v
  have hw := toNumber_toPrimitive_rename hr w
  simp only [compareValues, toPrimitive_rename hr]
  generalize toPrimitive h v = a at hv ⊢
  generalize toPrimitive h w = b at hw ⊢
  split
  · rfl
  · rfl
  · rw [hv, hw]

end

end Coercion

/-! ## Items -/

/-- Items with their values renamed. -/
def Items.rename (ρ : ObjectId → ObjectId) : Items → Items
  | .elements xs => .elements (xs.map (Value.rename ρ))
  | .typed t xs => .typed t (xs.map (Value.rename ρ))
  | .mapEntries es => .mapEntries (es.map (Host.renameEntry ρ))
  | .properties es => .properties (es.map (Host.renameEntry ρ))

/-- What a loop binds, renamed. -/
def LoopBinding.rename (ρ : ObjectId → ObjectId) : LoopBinding → LoopBinding
  | .item v => .item (v.rename ρ)
  | .entry key value => .entry (key.rename ρ) (value.rename ρ)

theorem Items.bindings_rename (xs : Items) :
    (xs.rename ρ).bindings = xs.bindings.map (LoopBinding.rename ρ) := by
  cases xs <;> simp only [Items.rename, Items.bindings, List.map_map] <;> rfl

namespace Collection

theorem dataEntries_rename (ps : List (String × Property)) :
    dataEntries (ps.map fun p => (p.1, p.2.rename ρ)) =
      (dataEntries ps).map fun es => es.map (Host.renameEntry ρ) := by
  induction ps with
  | nil => rfl
  | cons p ps ih =>
    obtain ⟨key, p⟩ := p
    cases p with
    | accessor getter => rfl
    | data v =>
      rw [List.map_cons, Property.rename, dataEntries, dataEntries, ih]
      cases dataEntries ps <;> rfl

theorem unitEntries_rename (i : Nat) (us : List Nat) :
    (unitEntries i us).map (Host.renameEntry ρ) = unitEntries i us := by
  induction us generalizing i with
  | nil => rfl
  | cons u us ih =>
    rw [unitEntries, List.map_cons, ih]
    rfl

theorem mapValue_rename (hρ : Function.Injective ρ) (es : List (Value × Value)) (key : Value) :
    mapValue (es.map (Host.renameEntry ρ)) (key.rename ρ) = (mapValue es key).rename ρ := by
  rw [mapValue, mapValue, List.find?_map]
  have hsame : (fun e : Value × Value => e.1.sameValueZero (key.rename ρ)) ∘ Host.renameEntry ρ =
      fun e => e.1.sameValueZero key :=
    funext fun e => Value.sameValueZero_rename hρ e.1 key
  rw [hsame]
  cases es.find? fun e => e.1.sameValueZero key <;> rfl

theorem rename_textMember (s : String) (key : PropertyKey) :
    (textMember s key).rename ρ = textMember s key := by
  unfold textMember
  split
  · rfl
  · split <;> rfl

theorem builtinMember?_rename (kind : Kind) (key : PropertyKey) :
    builtinMember? (kind.rename ρ) key = (builtinMember? kind key).map (Value.rename ρ) := by
  have hsequence : ∀ xs : List Value,
      (if key = .string "length" then some (countValue (xs.map (Value.rename ρ)).length)
        else (arrayIndex? key).bind fun i => (xs.map (Value.rename ρ))[i]?) =
      (if key = .string "length" then some (countValue xs.length)
        else (arrayIndex? key).bind fun i => xs[i]?).map (Value.rename ρ) := by
    intro xs
    split
    · rw [List.length_map]
      rfl
    · simp only [List.getElem?_map, Option.map_bind]
      rfl
  cases kind with
  | array xs => exact hsequence xs
  | typedArray t xs => exact hsequence xs
  | set xs | map es =>
    simp only [Kind.rename, builtinMember?, List.length_map]
    split <;> rfl
  | regexp r =>
    simp only [Kind.rename, builtinMember?]
    split
    · rfl
    · split <;> rfl
  | function f | classFunction f | error name | buffer name n =>
    simp only [Kind.rename, builtinMember?]
    split <;> rfl
  | _ => rfl

section

variable (hr : h.Renames ρ k)

include hr

theorem length_rename (v : Value) : length k (v.rename ρ) = length h v := by
  have hcount : ownCount k (v.rename ρ) = ownCount h v := by
    cases v with
    | object id => exact hr.ownStringKeyCount_rename id
    | _ => rfl
  rw [length, length, hr.kind_rename, hcount]
  cases h.kind v <;> simp only [Kind.rename, List.length_map]

theorem items_rename (v : Value) :
    items k (v.rename ρ) = (items h v).map (Items.rename ρ) := by
  have hentries : (ownEntries k (v.rename ρ)).map Items.properties =
      ((ownEntries h v).map Items.properties).map (Items.rename ρ) := by
    cases v with
    | object id =>
      rw [Value.rename, ownEntries, ownEntries, hr.ownStringProperties_rename, dataEntries_rename]
      cases dataEntries (h.ownStringProperties id) <;> rfl
    | _ => rfl
  rw [items, items, hr.kind_rename]
  cases h.kind v with
  | string s => simp [Kind.rename, Except.map, Items.rename, unitEntries_rename]
  | array xs | set xs | weakSet xs | typedArray t xs | map es | weakMap es => rfl
  | undefined | null => rfl
  | _ => exact hentries

theorem contains_rename (v w : Value) :
    contains k (v.rename ρ) (w.rename ρ) = contains h v w := by
  have hany : ∀ xs : List Value, (xs.map (Value.rename ρ)).any (fun x =>
      x.sameValueZero (w.rename ρ)) = xs.any fun x => x.sameValueZero w := by
    intro xs
    simp only [List.any_map, Function.comp_def, Value.sameValueZero_rename hr.injective]
  have hanyKey : ∀ es : List (Value × Value), (es.map (Host.renameEntry ρ)).any (fun e =>
      e.1.sameValueZero (w.rename ρ)) = es.any fun e => e.1.sameValueZero w := by
    intro es
    simp only [List.any_map, Function.comp_def, Host.renameEntry,
      Value.sameValueZero_rename hr.injective]
  rw [contains, contains, hr.kind_rename, Coercion.typeWord_rename hr, Coercion.toText_rename hr]
  cases h.kind v <;> simp only [Kind.rename, hany, hanyKey]

theorem substring_rename (s : String) (v w : Value) :
    substring k s (v.rename ρ) (w.rename ρ) = substring h s v w := by
  have hoffset : ∀ v len, clampOffset k (v.rename ρ) len = clampOffset h v len := by
    intro v len
    rw [clampOffset, clampOffset, Coercion.toNumber_rename hr]
  have hend : ∀ len, clampEnd k (w.rename ρ) len = clampEnd h w len := by
    intro len
    cases w with
    | undefined => rfl
    | _ => exact hoffset _ len
  simp only [substring, hoffset, hend]

theorem objectMember_rename (v : Value) (key : PropertyKey) :
    objectMember k (v.rename ρ) key = (objectMember h v key).map (Value.rename ρ) := by
  cases v with
  | object id =>
    have hkind := hr.kind_rename (.object id)
    rw [Value.rename] at hkind ⊢
    rw [objectMember, objectMember, hr.findProperty?_rename, hkind, builtinMember?_rename]
    cases h.findProperty? id key with
    | none =>
      simp only [Option.map_none, Except.map]
      cases builtinMember? (h.kind (.object id)) key <;> rfl
    | some p => cases p <;> rfl
  | _ => rfl

theorem member_rename (v w : Value) (ofMap : Bool) :
    member k (v.rename ρ) (w.rename ρ) ofMap = (member h v w ofMap).map (Value.rename ρ) := by
  rw [member, member, hr.kind_rename, Coercion.toKey_rename hr]
  cases h.kind v with
  | undefined | null => cases Coercion.toKey h w <;> rfl
  | map es | weakMap es =>
    cases ofMap
    · rfl
    · simp [Kind.rename, Except.map, mapValue_rename hr.injective]
  | string s =>
    cases Coercion.toKey h w with
    | error e => rfl
    | ok key => exact congrArg Except.ok (rename_textMember s key).symm
  | bool b => rfl
  | number x => rfl
  | bigint n => rfl
  | symbol s => rfl
  | _ =>
    cases Coercion.toKey h w with
    | error e => rfl
    | ok key => exact objectMember_rename hr v key

theorem instanceOf_rename {context context' : Context}
    (hcontext : ∀ name, context'.get? name = (context.get? name).map (Value.rename ρ))
    (v : Value) (type : TypeName) :
    instanceOf k context' (v.rename ρ) type = instanceOf h context v type := by
  cases type with
  | primitive word => rw [instanceOf, instanceOf, hr.typeOf_rename]
  | constructor name =>
    simp only [instanceOf, hcontext]
    cases context.get? name with
    | none =>
      cases v with
      | object id =>
        have hkind := hr.kind_object_rename id
        simp only [Option.map_none, Value.rename, hkind]
        cases (h.object id).kind <;> rfl
      | _ => rfl
    | some c =>
      cases c with
      | object c =>
        simp only [Option.map_some, Value.rename, hr.function?_rename]
        cases v <;> simp only [hr.inheritsFrom_rename]
      | _ => rfl

theorem matchesValue_rename (s : String) (v : Value) :
    matchesValue k s (v.rename ρ) = matchesValue h s v := by
  rw [matchesValue, matchesValue, hr.kind_rename]
  cases h.kind v <;> rfl

end

end Collection

end ProbeEngine
