import ProbeEngine.Proofs.Expr.Built
import ProbeEngine.Proofs.Host.Redirection

/-!
# Evaluation and getters

Every question that evaluation asks of a heap has the same answer whatever stands
behind the accessors (`Eval.Read.redirect`), and none of them fails with something
that the host threw (`Eval.Read.notThrown`). So evaluation commutes with a
redirection of the heap (`Expr.evaluate_redirect`): it gives the same value or the
same error, and makes the same objects.
-/

namespace ProbeEngine

open Host (Value Heap PropertyKey Property ObjectId Redirection)

/-! ## Results that no thrown value is -/

/-- A result that is not something the host threw. -/
def NotThrown {α : Type} (x : Except EvalError α) : Prop := ∀ v, x ≠ .error (.thrown v)

namespace NotThrown

variable {α β : Type}

theorem ok (a : α) : NotThrown (.ok a) := by
  intro v h
  cases h

theorem map {x : Except EvalError α} (hx : NotThrown x) (f : α → β) : NotThrown (x.map f) := by
  cases x with
  | ok a => exact ok (f a)
  | error e =>
    intro v h
    cases h
    exact hx v rfl

theorem bind {x : Except EvalError α} {f : α → Except EvalError β} (hx : NotThrown x)
    (hf : ∀ a, NotThrown (f a)) : NotThrown (x.bind f) := by
  cases x with
  | ok a => exact hf a
  | error e =>
    intro v h
    cases h
    exact hx v rfl

end NotThrown

/-! ## Coercion -/

namespace Coercion

section

variable (ρ : Redirection) (h : Heap)

@[simp] theorem guardValue_redirect (v : Value) :
    guardValue (h.redirect ρ) v = guardValue h v := by
  cases v with
  | object id =>
    have hmethod : hasMethod (h.redirect ρ) id = hasMethod h id := by
      simp only [hasMethod, Heap.isSome_findProperty?_redirect]
    simp only [guardValue, hmethod]
  | _ => rfl

@[simp] theorem typeWord_redirect (v : Value) : typeWord (h.redirect ρ) v = typeWord h v := by
  cases v with
  | object id => exact Heap.constructorName_redirect ρ h id
  | _ => rfl

@[simp] theorem expectText_redirect (v : Value) :
    expectText (h.redirect ρ) v = expectText h v := by
  cases v with
  | string s => rfl
  | _ => exact congrArg (fun w => Except.error (EvalError.notText w)) (typeWord_redirect ρ h _)

@[simp] theorem defaultTextWithin_redirect (n : Nat) (v : Value) :
    defaultTextWithin (h.redirect ρ) n v = defaultTextWithin h n v := by
  induction n generalizing v with
  | zero => exact Heap.display_redirect ρ h v
  | succ n ih =>
    simp only [defaultTextWithin, Heap.kind_redirect, Heap.describeThrown_redirect,
      Heap.display_redirect, ih]

@[simp] theorem defaultText_redirect (v : Value) :
    defaultText (h.redirect ρ) v = defaultText h v := by
  have hsize : (h.redirect ρ).objects.size = h.objects.size := Array.size_mapIdx
  rw [defaultText, defaultText, hsize, defaultTextWithin_redirect]

@[simp] theorem toText_redirect (v : Value) : toText (h.redirect ρ) v = toText h v := by
  cases v with
  | object id => simp only [toText, guardValue_redirect, defaultText_redirect]
  | _ => rfl

@[simp] theorem toPrimitive_redirect (v : Value) :
    toPrimitive (h.redirect ρ) v = toPrimitive h v := by
  cases v with
  | object id => simp only [toPrimitive, Heap.kind_redirect, defaultText_redirect]
  | _ => rfl

@[simp] theorem toNumber_redirect (v : Value) : toNumber (h.redirect ρ) v = toNumber h v := by
  cases v with
  | object id => simp only [toNumber, guardValue_redirect, toPrimitive_redirect]
  | _ => rfl

@[simp] theorem toKey_redirect (v : Value) : toKey (h.redirect ρ) v = toKey h v := by
  cases v with
  | object id => exact congrArg (Except.map PropertyKey.string) (toText_redirect ρ h (.object id))
  | _ => rfl

@[simp] theorem compareValues_redirect (v w : Value) :
    compareValues (h.redirect ρ) v w = compareValues h v w := by
  simp only [compareValues, toPrimitive_redirect, toNumber_redirect]

end

section

variable (h : Heap)

theorem notThrown_guardValue (v : Value) : NotThrown (guardValue h v) := by
  intro w hw
  unfold guardValue at hw
  split at hw
  · split at hw <;> cases hw
  · cases hw

theorem notThrown_expectText (v : Value) : NotThrown (expectText h v) := by
  intro w hw
  unfold expectText at hw
  split at hw <;> cases hw

theorem notThrown_toText (v : Value) : NotThrown (toText h v) := by
  cases v with
  | symbol s =>
    intro w hw
    cases hw
  | object id => exact (notThrown_guardValue h (.object id)).bind fun _ => .ok _
  | _ => exact .ok _

theorem notThrown_toNumber (v : Value) : NotThrown (toNumber h v) := by
  cases v with
  | symbol s =>
    intro w hw
    cases hw
  | object id => exact (notThrown_guardValue h (.object id)).bind fun _ => .ok _
  | _ => exact .ok _

theorem notThrown_toKey (v : Value) : NotThrown (toKey h v) := by
  cases v with
  | object id => exact (notThrown_toText h (.object id)).map _
  | _ => exact .ok _

theorem notThrown_compareValues (v w : Value) : NotThrown (compareValues h v w) := by
  rw [compareValues]
  split
  · exact .ok _
  · exact .ok _
  · exact (notThrown_toNumber h _).bind fun _ => (notThrown_toNumber h _).bind fun _ => .ok _

end

end Coercion

/-! ## Collections and members -/

namespace Collection

open Coercion

section

variable (ρ : Redirection) (h : Heap)

theorem length_redirect (v : Value) : length (h.redirect ρ) v = length h v := by
  have hcount : ownCount (h.redirect ρ) v = ownCount h v := by
    cases v with
    | object id => exact Heap.ownStringKeyCount_redirect ρ h id
    | _ => rfl
  simp only [length, Heap.kind_redirect, hcount]

/-- A getter is refused whichever it is. -/
theorem dataEntries_redirect (f : String → Nat → Nat) (ps : List (String × Property)) :
    dataEntries (ps.map fun p => (p.1, p.2.redirect (f p.1))) = dataEntries ps := by
  induction ps with
  | nil => rfl
  | cons p ps ih =>
    obtain ⟨key, p⟩ := p
    cases p with
    | data v => exact congrArg (Except.map _) ih
    | accessor getter => rfl

theorem items_redirect (v : Value) : items (h.redirect ρ) v = items h v := by
  have hown : ownEntries (h.redirect ρ) v = ownEntries h v := by
    cases v with
    | object id =>
      rw [ownEntries, ownEntries, Heap.ownStringProperties_redirect]
      exact dataEntries_redirect (fun key => ρ id (.string key)) _
    | _ => rfl
  simp only [items, Heap.kind_redirect, hown]

theorem contains_redirect (collection item : Value) :
    contains (h.redirect ρ) collection item = contains h collection item := by
  simp only [contains, Heap.kind_redirect, toText_redirect, typeWord_redirect]

theorem substring_redirect (s : String) (start finish : Value) :
    substring (h.redirect ρ) s start finish = substring h s start finish := by
  have hoffset : ∀ v n, clampOffset (h.redirect ρ) v n = clampOffset h v n := fun v n => by
    rw [clampOffset, clampOffset, toNumber_redirect]
  simp only [substring, clampEnd, hoffset]

/-- A member that is a getter is refused whichever it is; any other is read where it lies. -/
theorem objectMember_redirect (target : Value) (key : PropertyKey) :
    objectMember (h.redirect ρ) target key = objectMember h target key := by
  cases target with
  | object id =>
    obtain ⟨f, hf⟩ := Heap.findProperty?_redirect ρ h id key
    simp only [objectMember, hf, Heap.kind_redirect]
    cases h.findProperty? id key with
    | none => rfl
    | some p => cases p <;> rfl
  | _ => rfl

theorem member_redirect (target key : Value) (ofMap : Bool) :
    member (h.redirect ρ) target key ofMap = member h target key ofMap := by
  have hmember : objectMember (h.redirect ρ) target = objectMember h target :=
    funext (objectMember_redirect ρ h target)
  simp only [member, Heap.kind_redirect, toKey_redirect, hmember]

theorem instanceOf_redirect (context : Context) (v : Value) (type : TypeName) :
    instanceOf (h.redirect ρ) context v type = instanceOf h context v type := by
  simp only [instanceOf, Heap.typeOf_redirect, Heap.function?_redirect,
    Heap.inheritsFrom_redirect, Heap.kind_object_redirect]

theorem matchesValue_redirect (s : String) (pattern : Value) :
    matchesValue (h.redirect ρ) s pattern = matchesValue h s pattern := by
  simp only [matchesValue, Heap.kind_redirect]

end

section

variable (h : Heap)

theorem notThrown_length (v : Value) : NotThrown (length h v) := by
  intro w hw
  rw [length] at hw
  split at hw <;> cases hw

theorem notThrown_dataEntries (ps : List (String × Property)) : NotThrown (dataEntries ps) := by
  induction ps with
  | nil => exact .ok []
  | cons p ps ih =>
    obtain ⟨key, p⟩ := p
    cases p with
    | data v => exact ih.map _
    | accessor getter =>
      intro w hw
      cases hw

theorem notThrown_items (v : Value) : NotThrown (items h v) := by
  have hown : NotThrown (ownEntries h v) := by
    cases v with
    | object id => exact notThrown_dataEntries _
    | _ => exact .ok _
  rw [items]
  split
  case h_7 | h_8 =>
    intro w hw
    cases hw
  case h_10 => exact hown.map _
  all_goals exact .ok _

theorem notThrown_contains (collection item : Value) :
    NotThrown (contains h collection item) := by
  rw [contains]
  split
  case h_1 => exact (notThrown_toText h item).map _
  case h_8 =>
    intro w hw
    cases hw
  all_goals exact .ok _

theorem notThrown_substring (s : String) (start finish : Value) :
    NotThrown (substring h s start finish) := by
  have hoffset : ∀ v n, NotThrown (clampOffset h v n) := fun v n =>
    (notThrown_toNumber h v).map _
  have hend : ∀ v n, NotThrown (clampEnd h v n) := fun v n => by
    unfold clampEnd
    split
    · exact .ok _
    · exact hoffset v n
  exact (hoffset start _).bind fun _ => (hend finish _).bind fun _ => .ok _

theorem notThrown_objectMember (target : Value) (key : PropertyKey) :
    NotThrown (objectMember h target key) := by
  intro w hw
  unfold objectMember at hw
  split at hw
  · split at hw <;> cases hw
  · cases hw

theorem notThrown_member (target key : Value) (ofMap : Bool) :
    NotThrown (member h target key ofMap) := by
  have hkey := notThrown_toKey h key
  rw [member]
  split
  case h_1 | h_2 =>
    refine hkey.bind fun k w hw => ?_
    cases hw
  case h_3 | h_4 =>
    split
    · exact .ok _
    · intro w hw
      cases hw
  case h_5 => exact hkey.map _
  case h_10 => exact hkey.bind fun k => notThrown_objectMember h target k
  all_goals exact .ok _

theorem notThrown_instanceOf (context : Context) (v : Value) (type : TypeName) :
    NotThrown (instanceOf h context v type) := by
  intro w hw
  unfold instanceOf at hw
  repeat' split at hw
  all_goals cases hw

theorem notThrown_matchesValue (s : String) (pattern : Value) :
    NotThrown (matchesValue h s pattern) := by
  intro w hw
  rw [matchesValue] at hw
  repeat' split at hw
  all_goals cases hw

end

end Collection

/-! ## Evaluation -/

namespace Eval

/-- No question depends on what stands behind the accessors. -/
theorem Read.redirect {α : Type} {f : Heap → Except EvalError α} (hf : Read f)
    (ρ : Redirection) (h : Heap) : f (h.redirect ρ) = f h := by
  cases hf with
  | resolve s r => rfl
  | length v => exact Collection.length_redirect ρ h v
  | items v => exact Collection.items_redirect ρ h v
  | instanceOf context v type => exact Collection.instanceOf_redirect ρ h context v type
  | guardValue v => exact Coercion.guardValue_redirect ρ h v
  | compareValues v w => exact Coercion.compareValues_redirect ρ h v w
  | toText v => exact Coercion.toText_redirect ρ h v
  | expectText v => exact Coercion.expectText_redirect ρ h v
  | substring s i j => exact Collection.substring_redirect ρ h s i j
  | contains v w => exact Collection.contains_redirect ρ h v w
  | matchesValue s v => exact Collection.matchesValue_redirect ρ h s v
  | member v k ofMap => exact Collection.member_redirect ρ h v k ofMap
  | display => exact congrArg Except.ok (Heap.display_redirect_eq ρ h)

/-- No question is answered by something that the host threw. -/
theorem Read.notThrown {α : Type} {f : Heap → Except EvalError α} (hf : Read f) (h : Heap) :
    NotThrown (f h) := by
  cases hf with
  | resolve s r =>
    intro w hw
    dsimp only at hw
    split at hw <;> cases hw
  | length v => exact Collection.notThrown_length h v
  | items v => exact Collection.notThrown_items h v
  | instanceOf context v type => exact Collection.notThrown_instanceOf h context v type
  | guardValue v => exact Coercion.notThrown_guardValue h v
  | compareValues v w => exact Coercion.notThrown_compareValues h v w
  | toText v => exact Coercion.notThrown_toText h v
  | expectText v => exact Coercion.notThrown_expectText h v
  | substring s i j => exact Collection.notThrown_substring h s i j
  | contains v w => exact Collection.notThrown_contains h v w
  | matchesValue s v => exact Collection.notThrown_matchesValue h s v
  | member v k ofMap => exact Collection.notThrown_member h v k ofMap
  | display => exact .ok _

/-- What is built from questions and additions commutes with a redirection. -/
theorem Built.redirect {α : Type} {x : Eval α} (hx : Built x) (ρ : Redirection) (h : Heap) :
    x (h.redirect ρ) = (x h).map fun r => (r.1, r.2.redirect ρ) := by
  induction hx generalizing h with
  | pure a => rfl
  | bind _ _ ihx ihf =>
    rename_i x f _ _
    have hbind : ∀ h, (x >>= f) h = (x h).bind fun r => f r.1 r.2 := fun _ => rfl
    rw [hbind, hbind, ihx h]
    cases x h with
    | error e => rfl
    | ok r => exact ihf r.1 r.2
  | reading hf =>
    rename_i f
    rw [Eval.reading, Eval.reading, hf.redirect ρ h]
    cases f h <;> rfl
  | allocate kind =>
    simp only [Eval.allocate, Heap.redirect_allocateKind]
    rfl
  | allocateRecord ps =>
    simp only [Eval.allocateRecord, Heap.redirect_allocateKind, Heap.redirect_setAll]
    rfl
  | succeeds _ ih =>
    rename_i x _
    rw [Eval.succeeds, Eval.succeeds, ih h]
    cases x h <;> rfl

/-- What is built from questions and additions fails with nothing that the host threw. -/
theorem Built.notThrown {α : Type} {x : Eval α} (hx : Built x) (h : Heap) : NotThrown (x h) := by
  induction hx generalizing h with
  | pure a => exact .ok _
  | bind _ _ ihx ihf => exact (ihx h).bind fun r => ihf r.1 r.2
  | reading hf => exact (hf.notThrown h).map _
  | allocate kind => exact .ok _
  | allocateRecord ps => exact .ok _
  | succeeds _ _ =>
    intro w hw
    rw [Eval.succeeds] at hw
    split at hw <;> cases hw

end Eval

namespace Expr

/-- Evaluation in a redirected heap: the same value or error, the same new objects. -/
theorem evaluate_redirect (e : Expr) (context : Context) (ρ : Redirection) (h : Heap) :
    e.evaluate context (h.redirect ρ) =
      (e.evaluate context h).map fun r => (r.1, r.2.redirect ρ) :=
  (built_eval e { context := context }).redirect ρ h

theorem notThrown_evaluate (e : Expr) (context : Context) (h : Heap) :
    NotThrown (e.evaluate context h) :=
  (built_eval e { context := context }).notThrown h

end Expr

end ProbeEngine
