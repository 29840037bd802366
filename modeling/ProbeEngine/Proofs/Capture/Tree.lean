import Mathlib.Algebra.BigOperators.Ring.Finset
import Mathlib.Algebra.Order.BigOperators.Group.List
import Mathlib.Algebra.Order.Ring.Nat
import Mathlib.Tactic.GCongr
import ProbeEngine.Capture.Captured

/-!
# Captured values as trees

The captured values inside of a captured value are its children, and a node lies as
many levels below the root as there are steps from parent to child. A tree in which
no node has more than `b` children, and none deeper than `k` levels has any, has at
most `1 + b + … + b ^ k` nodes; the step of this count is `nodeCount_le_of_children`.
-/

namespace ProbeEngine

open Finset (range)

/-- What a body holds, in order. -/
def CapturedBody.parts {α : Type} : CapturedBody α → List α
  | .fields fs => fs.map (·.2)
  | .elements xs => xs
  | .entries es => es.flatMap fun e => [e.1, e.2]
  | _ => []

namespace Captured

/-- The captured values directly inside of a captured value. -/
def children (c : Captured) : List Captured := c.body.parts

/-- A tree has a node so many levels below its root. -/
inductive HasNode (t : Captured) : Nat → Captured → Prop
  | root : HasNode t 0 t
  | child {d : Nat} {c x : Captured} (hc : HasNode t d c) (hx : x ∈ c.children) :
      HasNode t (d + 1) x

/-! ## The number of nodes -/

mutual

/-- The number of nodes of a tree. -/
def nodeCount : Captured → Nat
  | mk _ body _ _ _ => 1 + bodyNodes body

/-- The number of nodes in a body. -/
def bodyNodes : CapturedBody Captured → Nat
  | .value _ => 0
  | .null => 0
  | .fields fs => fieldNodes fs
  | .elements xs => elementNodes xs
  | .entries es => entryNodes es
  | .empty => 0

/-- The number of nodes in some fields. -/
def fieldNodes : List (String × Captured) → Nat
  | [] => 0
  | (_, c) :: fs => nodeCount c + fieldNodes fs

/-- The number of nodes in some elements. -/
def elementNodes : List Captured → Nat
  | [] => 0
  | c :: cs => nodeCount c + elementNodes cs

/-- The number of nodes in some entries. -/
def entryNodes : List (Captured × Captured) → Nat
  | [] => 0
  | (k, v) :: es => nodeCount k + nodeCount v + entryNodes es

end

theorem fieldNodes_eq (fs : List (String × Captured)) :
    fieldNodes fs = ((fs.map (·.2)).map nodeCount).sum := by
  induction fs with
  | nil => simp [fieldNodes]
  | cons f fs ih => simp [fieldNodes, ih]

theorem elementNodes_eq (xs : List Captured) : elementNodes xs = (xs.map nodeCount).sum := by
  induction xs with
  | nil => simp [elementNodes]
  | cons x xs ih => simp [elementNodes, ih]

theorem entryNodes_eq (es : List (Captured × Captured)) :
    entryNodes es = ((es.flatMap fun e => [e.1, e.2]).map nodeCount).sum := by
  induction es with
  | nil => simp [entryNodes]
  | cons e es ih =>
    obtain ⟨k, v⟩ := e
    simp only [entryNodes, ih, List.flatMap_cons, List.map_append, List.map_cons, List.map_nil,
      List.sum_append, List.sum_cons, List.sum_nil]
    omega

/-- A tree has one node more than its children have together. -/
theorem nodeCount_eq (c : Captured) : c.nodeCount = 1 + (c.children.map nodeCount).sum := by
  obtain ⟨type, body, truncated, size, reason⟩ := c
  have hbody : bodyNodes body = (body.parts.map nodeCount).sum := by
    cases body with
    | fields fs => rw [bodyNodes, fieldNodes_eq, CapturedBody.parts]
    | elements xs => rw [bodyNodes, elementNodes_eq, CapturedBody.parts]
    | entries es => rw [bodyNodes, entryNodes_eq, CapturedBody.parts]
    | _ => simp [bodyNodes, CapturedBody.parts]
  rw [nodeCount, hbody]
  rfl

theorem nodeCount_of_children_nil {c : Captured} (h : c.children = []) : c.nodeCount = 1 := by
  rw [nodeCount_eq, h]
  rfl

theorem nodeCount_lt_of_mem_children {c x : Captured} (hx : x ∈ c.children) :
    x.nodeCount < c.nodeCount := by
  have hle : x.nodeCount ≤ (c.children.map nodeCount).sum :=
    List.le_sum_of_mem (List.mem_map_of_mem hx)
  rw [nodeCount_eq c]
  omega

/-- What holds of a tree whenever it holds of its children holds of every tree. -/
theorem induction_children {P : Captured → Prop} (h : ∀ c, (∀ x ∈ c.children, P x) → P c)
    (c : Captured) : P c := by
  induction hn : c.nodeCount using Nat.strong_induction_on generalizing c with
  | _ n ih =>
    refine h c fun x hx => ih x.nodeCount ?_ x rfl
    exact hn ▸ nodeCount_lt_of_mem_children hx

/-- One level more: at most `b` children with so many nodes each as `k` levels allow. -/
theorem nodeCount_le_of_children {c : Captured} {b k : Nat} (hb : c.children.length ≤ b)
    (hk : ∀ x ∈ c.children, x.nodeCount ≤ ∑ i ∈ range k, b ^ i) :
    c.nodeCount ≤ ∑ i ∈ range (k + 1), b ^ i := by
  have hsum : (c.children.map nodeCount).sum ≤
      (c.children.map nodeCount).length * ∑ i ∈ range k, b ^ i := by
    refine List.sum_le_card_nsmul _ _ fun n hn => ?_
    obtain ⟨x, hx, rfl⟩ := List.mem_map.1 hn
    exact hk x hx
  calc c.nodeCount = 1 + (c.children.map nodeCount).sum := nodeCount_eq c
    _ ≤ 1 + c.children.length * ∑ i ∈ range k, b ^ i := by
        rw [List.length_map] at hsum
        omega
    _ ≤ 1 + b * ∑ i ∈ range k, b ^ i := by gcongr
    _ = ∑ i ∈ range (k + 1), b ^ i := by
        rw [Finset.sum_range_succ', Finset.mul_sum, pow_zero, Nat.add_comm]
        simp only [pow_succ']

end Captured

end ProbeEngine
