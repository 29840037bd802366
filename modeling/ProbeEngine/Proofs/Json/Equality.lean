import ProbeEngine.Proofs.Number.Whole
import ProbeEngine.Proofs.OrderedTable

/-!
# JSON values as data

Two JSON values whose numbers are whole are the same data (`Json.Same`) if they differ in
nothing but how a number is held, in which order the fields of an object stand, and what
later fields of the same name have replaced.
-/

namespace ProbeEngine.Json

/-! ## Parts of values -/

/-- The values directly inside of a value. -/
def children : Json → List Json
  | .array items => items
  | .object fields => fields.map (·.2)
  | _ => []

theorem sizeOf_lt_of_mem_children {j x : Json} (hx : x ∈ j.children) : sizeOf x < sizeOf j := by
  cases j with
  | array items =>
    have hlt : sizeOf x < sizeOf items := List.sizeOf_lt_of_mem hx
    rw [array.sizeOf_spec]
    omega
  | object fields =>
    obtain ⟨⟨name, x⟩, hf, rfl⟩ := List.mem_map.1 hx
    have hlt := List.sizeOf_lt_of_mem hf
    rw [Prod.mk.sizeOf_spec] at hlt
    rw [object.sizeOf_spec]
    show sizeOf x < 1 + sizeOf fields
    omega
  | _ => cases hx

/-- What holds of a value whenever it holds of the values inside of it holds of every value. -/
theorem induction_children {P : Json → Prop} (h : ∀ j, (∀ x ∈ j.children, P x) → P j)
    (j : Json) : P j :=
  h j fun x _ => induction_children h x
termination_by sizeOf j
decreasing_by exact sizeOf_lt_of_mem_children ‹_›

/-- A value is part of another one: that value itself, or inside of it at some depth. -/
inductive Part (j : Json) : Json → Prop
  | self : Part j j
  | child {x y : Json} (hx : Part j x) (hy : y ∈ x.children) : Part j y

theorem Part.of_child {j x y : Json} (hx : x ∈ j.children) (hy : Part x y) : Part j y := by
  induction hy with
  | self => exact .child .self hx
  | child _ hz ih => exact .child ih hz

theorem Part.cases_child {j x : Json} (hx : Part j x) : x = j ∨ ∃ y ∈ j.children, Part y x := by
  induction hx with
  | self => exact .inl rfl
  | child _ hz ih =>
    rcases ih with rfl | ⟨y, hy, hx⟩
    · exact .inr ⟨_, hz, .self⟩
    · exact .inr ⟨y, hy, .child hx hz⟩

section

variable {P : Json → Prop} {j x : Json}

theorem Part.forall_of_child (hj : ∀ y, j.Part y → P y) (hx : x ∈ j.children) :
    ∀ y, x.Part y → P y :=
  fun y hy => hj y (hy.of_child hx)

/-- What holds of a value, and of every part of what is inside of it, holds of all its parts. -/
theorem Part.forall_of_node (hj : P j) (hchildren : ∀ x ∈ j.children, ∀ y, x.Part y → P y) :
    ∀ x, j.Part x → P x := by
  intro x hx
  rcases hx.cases_child with rfl | ⟨y, hy, hx⟩
  · exact hj
  · exact hchildren y hy x hx

end

/-! ## Whole numbers -/

/-- The whole number that a JSON number is, if it is one. -/
def whole? : Json → Option Int
  | .integer n => some n
  | .float x => Binary64.integer? x
  | _ => none

/-- A value all of whose numbers are whole, and of an absolute value of at most `2 ^ 53 - 1`. -/
def HasSafeNumbers (j : Json) : Prop :=
  ∀ x, j.Part x → x.number?.isSome → ∃ n, x.whole? = some n ∧ n.natAbs ≤ 2 ^ 53 - 1

theorem HasSafeNumbers.of_child {j x : Json} (hj : j.HasSafeNumbers) (hx : x ∈ j.children) :
    x.HasSafeNumbers :=
  Part.forall_of_child hj hx

theorem HasSafeNumbers.node {j : Json}
    (hj : j.number?.isSome → ∃ n, j.whole? = some n ∧ n.natAbs ≤ 2 ^ 53 - 1)
    (hchildren : ∀ x ∈ j.children, x.HasSafeNumbers) : j.HasSafeNumbers :=
  Part.forall_of_node hj hchildren

/-- The host's double for a safe number is that number. -/
theorem integer?_of_whole? {j : Json} {x : Float} {n : Int} (hx : j.number? = some x)
    (hn : j.whole? = some n) (hsafe : n.natAbs ≤ 2 ^ 53 - 1) : Binary64.integer? x = some n := by
  cases j with
  | integer m =>
    cases hx
    cases hn
    exact Binary64.integer?_ofInt (by omega)
  | float y =>
    cases hx
    exact hn
  | _ => cases hx

/-! ## The same data -/

/-- The value of the last field of a name. -/
def field? (fields : List (String × Json)) (name : String) : Option Json :=
  (OrderedTable.ofList fields).get? name

theorem mem_children_of_field? {fields : List (String × Json)} {name : String} {x : Json}
    (hx : field? fields name = some x) : x ∈ (object fields).children :=
  List.mem_map.2 ⟨(name, x), OrderedTable.mem_of_mem_ofList (OrderedTable.mem_of_get? hx), rfl⟩

/-- Two values are the same data: numbers by the whole numbers that they are, arrays item by
item, objects as maps from names to the values of their last fields. -/
inductive Same : Json → Json → Prop
  | null : Same .null .null
  | bool (b : Bool) : Same (.bool b) (.bool b)
  | number {j k : Json} {n : Int} (hj : j.whole? = some n) (hk : k.whole? = some n) : Same j k
  | string (s : String) : Same (.string s) (.string s)
  | array {items others : List Json} (hlength : items.length = others.length)
      (hitems : ∀ (i : Nat) x y, items[i]? = some x → others[i]? = some y → Same x y) :
      Same (.array items) (.array others)
  | object {fields others : List (String × Json)}
      (hnames : ∀ name, (field? fields name).isSome = (field? others name).isSome)
      (hfields : ∀ name x y, field? fields name = some x → field? others name = some y →
        Same x y) :
      Same (.object fields) (.object others)

end ProbeEngine.Json
