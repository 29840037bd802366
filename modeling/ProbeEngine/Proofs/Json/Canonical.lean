import Mathlib.Data.String.Basic
import ProbeEngine.Proofs.Json.Equality
import ProbeEngine.Proofs.Number.Rounding

/-!
# Canonical forms

The canonical form of a value keeps what stands in it. It is sorted all the way down, so it
is its own canonical form (`canonical_canonical`), and an object whose fields have distinct
names keeps each of them, in another place (`sortFields_perm`). A function that does no more
than that to a value `Arranges` it; leaving it as it is does, too.

A JSON value that a program holds is canonical, its integers have sixty-four bits and its other
numbers are finite (`IsValue`).
-/

namespace ProbeEngine.Json

variable {name : String} {v : Json} {f : String × Json} {fs : List (String × Json)}

/-! ## Fields in the order of their names -/

/-- Fields in the order of their names, one of each name. -/
def SortedFields (fs : List (String × Json)) : Prop := fs.Pairwise fun f g => f.1 < g.1

theorem mem_insertField (hf : f ∈ insertField name v fs) : f = (name, v) ∨ f ∈ fs := by
  induction fs with
  | nil => exact .inl (List.mem_singleton.1 hf)
  | cons g fs ih =>
    rw [insertField] at hf
    split at hf
    · exact List.mem_cons.1 hf
    · split at hf
      · exact (List.mem_cons.1 hf).imp_right (List.mem_cons_of_mem g)
      · rcases List.mem_cons.1 hf with rfl | hf
        · exact .inr List.mem_cons_self
        · exact (ih hf).imp_right (List.mem_cons_of_mem g)

theorem SortedFields.insertField (hfs : SortedFields fs) (name : String) (v : Json) :
    SortedFields (insertField name v fs) := by
  induction fs with
  | nil => exact List.pairwise_singleton _ _
  | cons g fs ih =>
    obtain ⟨hg, hfs'⟩ := List.pairwise_cons.1 hfs
    rw [Json.insertField]
    split
    case isTrue hlt =>
      refine List.pairwise_cons.2 ⟨fun f hf => ?_, hfs⟩
      rcases List.mem_cons.1 hf with rfl | hf
      · exact hlt
      · exact hlt.trans (hg f hf)
    case isFalse hlt =>
      split
      case isTrue heq => exact List.pairwise_cons.2 ⟨fun f hf => heq ▸ hg f hf, hfs'⟩
      case isFalse hne =>
        refine List.pairwise_cons.2 ⟨fun f hf => ?_, ih hfs'⟩
        rcases mem_insertField hf with rfl | hf
        · exact (not_lt.1 hlt).lt_of_ne' hne
        · exact hg f hf

theorem insertField_perm (hname : name ∉ fs.map (·.1)) (v : Json) :
    List.Perm (insertField name v fs) ((name, v) :: fs) := by
  induction fs with
  | nil => exact .refl _
  | cons g fs ih =>
    rw [List.map_cons, List.mem_cons, not_or] at hname
    rw [insertField, if_neg hname.1]
    split
    · exact .refl _
    · exact ((ih hname.2).cons g).trans (.swap _ _ _)

theorem sortFields_concat (fs : List (String × Json)) (f : String × Json) :
    sortFields (fs ++ [f]) = insertField f.1 f.2 (sortFields fs) := by
  rw [sortFields, List.foldl_append]
  rfl

theorem mem_of_mem_sortFields (hf : f ∈ sortFields fs) : f ∈ fs := by
  induction fs using List.reverseRecOn with
  | nil => exact hf
  | append_singleton fs g ih =>
    rw [sortFields_concat] at hf
    rcases mem_insertField hf with rfl | hf
    · exact List.mem_append_right _ List.mem_cons_self
    · exact List.mem_append_left _ (ih hf)

theorem sortedFields_sortFields (fs : List (String × Json)) : SortedFields (sortFields fs) := by
  induction fs using List.reverseRecOn with
  | nil => exact .nil
  | append_singleton fs g ih =>
    rw [sortFields_concat]
    exact ih.insertField _ _

/-- Fields of distinct names are all kept when they are sorted. -/
theorem sortFields_perm (hfs : (fs.map (·.1)).Nodup) : (sortFields fs).Perm fs := by
  induction fs using List.reverseRecOn with
  | nil => exact .refl _
  | append_singleton fs g ih =>
    rw [List.map_append, List.nodup_append'] at hfs
    have hperm := ih hfs.1
    have hname : g.1 ∉ (sortFields fs).map (·.1) := fun hg =>
      hfs.2.2 ((hperm.map _).subset hg) (List.mem_singleton_self g.1)
    rw [sortFields_concat]
    exact ((insertField_perm hname g.2).trans (hperm.cons g)).trans
      (List.perm_append_singleton g fs).symm

theorem SortedFields.sortFields_eq (hfs : SortedFields fs) : sortFields fs = fs := by
  have hnames : (fs.map (·.1)).Nodup := List.pairwise_map.2 (hfs.imp ne_of_lt)
  exact (sortFields_perm hnames).eq_of_pairwise
    (fun _ _ _ _ hlt hgt => absurd (hlt.trans hgt) (lt_irrefl _)) (sortedFields_sortFields fs) hfs

/-! ## Canonical forms -/

theorem canonicalItems_eq_map (js : List Json) : canonicalItems js = js.map canonical := by
  induction js with
  | nil => rfl
  | cons j js ih => rw [canonicalItems, ih, List.map_cons]

theorem canonicalFields_eq_map (fs : List (String × Json)) :
    canonicalFields fs = fs.map fun f => (f.1, f.2.canonical) := by
  induction fs with
  | nil => rfl
  | cons f fs ih => rw [canonicalFields, ih, List.map_cons]

theorem canonical_array (js : List Json) : canonical (.array js) = .array (js.map canonical) := by
  rw [canonical, canonicalItems_eq_map]

theorem canonical_object (fs : List (String × Json)) :
    canonical (.object fs) = .object (sortFields (fs.map fun f => (f.1, f.2.canonical))) := by
  rw [canonical, canonicalFields_eq_map]

/-- What is inside of a canonical form is the canonical form of what was inside of the value. -/
theorem exists_of_mem_children_canonical {j x : Json} (hx : x ∈ j.canonical.children) :
    ∃ y ∈ j.children, x = y.canonical := by
  cases j with
  | array js =>
    rw [canonical_array] at hx
    obtain ⟨y, hy, rfl⟩ := List.mem_map.1 hx
    exact ⟨y, hy, rfl⟩
  | object fs =>
    rw [canonical_object] at hx
    obtain ⟨f, hf, rfl⟩ := List.mem_map.1 hx
    obtain ⟨g, hg, rfl⟩ := List.mem_map.1 (mem_of_mem_sortFields hf)
    exact ⟨g.2, List.mem_map.2 ⟨g, hg, rfl⟩, rfl⟩
  | _ => cases hx

theorem canonical_object_of_sorted (hfs : SortedFields fs)
    (hvalues : ∀ x ∈ (object fs).children, x.canonical = x) :
    canonical (.object fs) = .object fs := by
  have hmap : fs.map (fun f => (f.1, f.2.canonical)) = fs := by
    conv_rhs => rw [← List.map_id fs]
    exact List.map_congr_left fun f hf =>
      Prod.ext rfl (hvalues f.2 (List.mem_map.2 ⟨f, hf, rfl⟩))
  rw [canonical_object, hmap, hfs.sortFields_eq]

/-- **A canonical form is its own canonical form.** -/
theorem canonical_canonical (j : Json) : j.canonical.canonical = j.canonical := by
  induction j using induction_children with
  | h j ih =>
    have hchildren : ∀ x ∈ j.canonical.children, x.canonical = x := by
      intro x hx
      obtain ⟨y, hy, rfl⟩ := exists_of_mem_children_canonical hx
      exact ih y hy
    cases j with
    | array js =>
      rw [canonical_array, canonical_array, List.map_map]
      exact congrArg array (List.map_congr_left ih)
    | object fs =>
      rw [canonical_object] at hchildren ⊢
      exact canonical_object_of_sorted (sortedFields_sortFields _) hchildren
    | _ => rfl

/-- What is inside of a canonical value is canonical. -/
theorem canonical_of_mem_children {j x : Json} (hj : j.canonical = j) (hx : x ∈ j.children) :
    x.canonical = x := by
  obtain ⟨y, -, rfl⟩ := exists_of_mem_children_canonical (hj.symm ▸ hx)
  exact canonical_canonical y

/-! ## Arrangements -/

/-- A function that changes nothing in a value but the order in which the fields of an object
stand, if their names are distinct. -/
structure Arranges (arrange : Json → Json) : Prop where
  null : arrange .null = .null
  bool (b : Bool) : arrange (.bool b) = .bool b
  integer (n : Int) : arrange (.integer n) = .integer n
  float (x : Float) : arrange (.float x) = .float x
  string (s : String) : arrange (.string s) = .string s
  array (js : List Json) : arrange (.array js) = .array (js.map arrange)
  object {fs : List (String × Json)} (hfs : (fs.map (·.1)).Nodup) :
    ∃ gs, arrange (.object fs) = .object gs ∧ gs.Perm (fs.map fun f => (f.1, arrange f.2))

theorem arranges_id : Arranges id where
  null := rfl
  bool _ := rfl
  integer _ := rfl
  float _ := rfl
  string _ := rfl
  array js := by rw [List.map_id, id]
  object {fs} _ := ⟨fs, rfl, .of_eq (List.map_id fs).symm⟩

theorem arranges_canonical : Arranges canonical where
  null := rfl
  bool _ := rfl
  integer _ := rfl
  float _ := rfl
  string _ := rfl
  array := canonical_array
  object {fs} hfs := by
    refine ⟨_, canonical_object fs, sortFields_perm ?_⟩
    rw [List.map_map]
    exact hfs

/-! ## Properties of what is inside -/

/-- A property of null that a value passes on to what is inside of it. -/
structure Inherited (P : Json → Prop) : Prop where
  null : P .null
  child {j x : Json} (hj : P j) (hx : x ∈ j.children) : P x

theorem inherited_canonical : Inherited fun j => j.canonical = j :=
  ⟨rfl, canonical_of_mem_children⟩

/-! ## Values that are held -/

/-- A number that is held: an integer of sixty-four bits, signed or unsigned, or a finite
double. -/
def HoldsNumber : Json → Prop
  | .integer n => -2 ^ 63 ≤ n ∧ n < 2 ^ 64
  | .float x => ∃ negative m e, Binary64.decode x = .finite negative m e
  | _ => True

/-- A value whose numbers are all held. -/
def HoldsNumbers (j : Json) : Prop := ∀ x, j.Part x → x.HoldsNumber

theorem HoldsNumbers.of_child {j x : Json} (hj : j.HoldsNumbers) (hx : x ∈ j.children) :
    x.HoldsNumbers :=
  Part.forall_of_child hj hx

theorem HoldsNumbers.node {j : Json} (hj : j.HoldsNumber)
    (hchildren : ∀ x ∈ j.children, x.HoldsNumbers) : j.HoldsNumbers :=
  Part.forall_of_node hj hchildren

@[simp] theorem holdsNumbers_null : null.HoldsNumbers := .node trivial nofun

@[simp] theorem holdsNumbers_bool (b : Bool) : (bool b).HoldsNumbers := .node trivial nofun

@[simp] theorem holdsNumbers_string (s : String) : (string s).HoldsNumbers := .node trivial nofun

@[simp] theorem holdsNumbers_integer_iff {n : Int} :
    (integer n).HoldsNumbers ↔ -2 ^ 63 ≤ n ∧ n < 2 ^ 64 :=
  ⟨fun h => h _ .self, fun h => .node h nofun⟩

@[simp] theorem holdsNumbers_array_iff {js : List Json} :
    (array js).HoldsNumbers ↔ ∀ j ∈ js, j.HoldsNumbers :=
  ⟨fun h _ hj => h.of_child hj, fun h => .node trivial h⟩

@[simp] theorem holdsNumbers_object_iff :
    (object fs).HoldsNumbers ↔ ∀ f ∈ fs, f.2.HoldsNumbers := by
  refine ⟨fun h f hf => h.of_child (List.mem_map_of_mem hf), fun h => .node trivial fun x hx => ?_⟩
  obtain ⟨f, hf, rfl⟩ := List.mem_map.1 hx
  exact h f hf

theorem holdsNumbers_natCast {n : Nat} (hn : n ≤ UInt64.size - 1) : (integer n).HoldsNumbers := by
  have hsize : UInt64.size = 2 ^ 64 := rfl
  exact holdsNumbers_integer_iff.2 ⟨by omega, by omega⟩

theorem inherited_holdsNumbers : Inherited HoldsNumbers :=
  ⟨holdsNumbers_null, HoldsNumbers.of_child⟩

theorem HoldsNumbers.canonical {j : Json} (hj : j.HoldsNumbers) : j.canonical.HoldsNumbers := by
  induction j using induction_children with
  | h j ih =>
    have hnode : j.canonical.HoldsNumber := by
      cases j with
      | array js => exact canonical_array js ▸ trivial
      | object fs => exact canonical_object fs ▸ trivial
      | _ => exact hj _ .self
    refine .node hnode fun x hx => ?_
    obtain ⟨y, hy, rfl⟩ := exists_of_mem_children_canonical hx
    exact ih y hy (hj.of_child hy)

/-- A JSON value as it is held. -/
structure IsValue (j : Json) : Prop where
  canonical_eq : j.canonical = j
  numbers : j.HoldsNumbers

theorem isValue_canonical {j : Json} (hj : j.HoldsNumbers) : j.canonical.IsValue :=
  ⟨canonical_canonical j, hj.canonical⟩

/-- The double that a held number stands for is held. -/
theorem HoldsNumber.number? {j : Json} {x : Float} (hj : j.HoldsNumber)
    (hx : j.number? = some x) : (float x).HoldsNumber := by
  cases j with
  | integer n =>
    cases hx
    exact Binary64.exists_decode_ofInt (by have := hj.1; have := hj.2; omega)
  | float y =>
    cases hx
    exact hj
  | _ => cases hx

end ProbeEngine.Json
