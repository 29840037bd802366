import ProbeEngine.Proofs.Capture.Steps
import ProbeEngine.Proofs.Capture.Tree
import ProbeEngine.Proofs.OrderedTable

/-!
# How large a capture is

Objects can hold themselves by their properties, and a getter can answer anything, so
nothing of a value becomes smaller on the way down. What ends a capture is its depth:
a node has children only above the last level, and then no more than the limits allow
(`children_of_capturesAs`). So every node keeps the limits, and the size of the whole
tree is bounded by the limits alone (`capture_bounded`).
-/

namespace ProbeEngine

open Finset (range)
open Host (Value Heap Kind PropertyKey Property ObjectId Getters)

namespace Capture

variable {g : Getters} {h : Heap} {limits : CaptureLimits} {d : Nat} {v : Value} {n m : Nat}
  {c : Captured}

/-! ## Captured texts -/

theorem charCount_firstChars_le (k : Nat) (s : String) :
    Text.charCount (Text.firstChars k s) ≤ k := by
  rw [Text.charCount, Text.firstChars, String.toList_ofList, List.length_take]
  exact Nat.min_le_left _ _

theorem charCount_captureText_le (limits : CaptureLimits) {s t : String}
    (ht : (captureText limits s).body = .value t) : Text.charCount t ≤ limits.maxLength := by
  unfold captureText at ht
  dsimp only at ht
  split at ht
  · cases ht
    assumption
  · cases ht
    exact charCount_firstChars_le _ s

/-! ## Values without parts -/

theorem body_captureText (limits : CaptureLimits) (s : String) :
    ∃ t, (captureText limits s).body = .value t := by
  unfold captureText
  dsimp only
  split
  · exact ⟨_, rfl⟩
  · exact ⟨_, rfl⟩

theorem children_of_isLeaf (hc : IsLeaf limits c) : c.children = [] := by
  cases hc with
  | text s =>
    obtain ⟨t, ht⟩ := body_captureText limits s
    rw [Captured.children, ht]
    rfl
  | _ => rfl

/-- Of these, texts alone have the type of a text. -/
theorem charCount_le_of_isLeaf (hc : IsLeaf limits c) (htype : c.type = "string") {t : String}
    (ht : c.body = .value t) : Text.charCount t ≤ limits.maxLength := by
  cases hc with
  | text s => exact charCount_captureText_le limits ht
  | primitive hne text => exact absurd htype hne
  | _ => cases ht

/-! ## Children -/

/-- The most children that a node can have under some limits. -/
def maxChildren (limits : CaptureLimits) : Nat :=
  max (2 * limits.maxCollectionSize) (max limits.maxFieldCount 4)

theorem length_take_le {α β : Type} {R : α → Nat → β → Nat → Prop} {as : List α} {bs : List β}
    {k : Nat} (hbs : InTurn R (as.take k) n bs m) : bs.length ≤ k := by
  rw [hbs.length_eq, List.length_take]
  exact Nat.min_le_left _ _

theorem PropertyCapturesAs.isPart_of_field {id : ObjectId} {ps : List (PropertyKey × Property)}
    {fs : List (String × Captured)} (hfs : InTurn (FieldCapturesAs g h limits d (.object id)) ps n
      fs m) {f : String × Captured} (hf : f ∈ fs) : IsPart g h limits d f.2 := by
  obtain ⟨p, -, k, l, hp⟩ := hfs.exists_of_mem hf
  exact hp.2.isPart

/-- Nodes have children above the last level alone, no more than the limits allow, and each of
them is a part one level deeper. -/
theorem children_of_capturesAs (hc : CapturesAs g h limits d v n c m) :
    c.children = [] ∨ d < limits.maxReferenceDepth ∧
      c.children.length ≤ maxChildren limits ∧ ∀ x ∈ c.children, IsPart g h limits (d + 1) x := by
  cases hc.outcome with
  | leaf _ hleaf => exact Or.inl (children_of_isLeaf hleaf)
  | depth _ _ hc =>
    rw [hc]
    exact Or.inl rfl
  | @elements xs type cs hd _ hcs hc =>
    have hchildren : c.children = cs := by
      rw [hc, Captured.children, body_limited]
      rfl
    refine Or.inr ⟨hd, ?_, fun x hx => ?_⟩
    · have hlength := length_take_le hcs
      rw [hchildren, maxChildren]
      omega
    · obtain ⟨y, -, k, l, hy⟩ := hcs.exists_of_mem (hchildren ▸ hx)
      exact Or.inr ⟨y, k, l, hy⟩
  | @entries es cs hd _ hcs hc =>
    have hchildren : c.children = cs.flatMap fun e => [e.1, e.2] := by
      rw [hc, Captured.children, body_limited]
      rfl
    refine Or.inr ⟨hd, ?_, fun x hx => ?_⟩
    · have hlength := length_take_le hcs
      have hpairs : (cs.flatMap fun e => [e.1, e.2]).length = 2 * cs.length := by
        simp [List.length_flatMap, Nat.mul_comm]
      rw [hchildren, hpairs, maxChildren]
      omega
    · rw [hchildren] at hx
      obtain ⟨p, hp, hx⟩ := List.mem_flatMap.1 hx
      obtain ⟨e, -, k, l, j, hkey, hvalue⟩ := hcs.exists_of_mem hp
      simp only [List.mem_cons, List.not_mem_nil, or_false] at hx
      rcases hx with rfl | rfl
      · exact Or.inr ⟨e.1, k, j, hkey⟩
      · exact Or.inr ⟨e.2, j, l, hvalue⟩
  | @fields id fs hd _ _ hfs hc =>
    have hchildren : c.children = (OrderedTable.ofList fs).entries.map (·.2) := by
      rw [hc, Captured.children, body_limited]
      rfl
    refine Or.inr ⟨hd, ?_, fun x hx => ?_⟩
    · have hfields := length_take_le hfs
      have hlength := OrderedTable.length_ofList_le fs
      rw [hchildren, List.length_map, maxChildren]
      omega
    · rw [hchildren] at hx
      obtain ⟨f, hf, rfl⟩ := List.mem_map.1 hx
      exact PropertyCapturesAs.isPart_of_field hfs (OrderedTable.mem_of_mem_ofList hf)
  | @error name fs hd _ hc hnames hparts =>
    refine Or.inr ⟨hd, ?_, fun x hx => ?_⟩
    · have hlength := hnames.length_le
      rw [List.length_map] at hlength
      rw [hc]
      show (fs.map (·.2)).length ≤ maxChildren limits
      rw [List.length_map, maxChildren]
      exact Nat.le_trans hlength (Nat.le_trans (Nat.le_max_right _ 4) (Nat.le_max_right _ _))
    · rw [hc] at hx
      obtain ⟨f, hf, rfl⟩ := List.mem_map.1 (show x ∈ fs.map (·.2) from hx)
      exact hparts f hf

theorem children_of_isAccessError (hc : c.IsAccessError) : c.children = [] := by
  obtain ⟨text, rfl⟩ := hc
  rfl

/-- The same of any node at a depth. -/
theorem children_of_isPart (hc : IsPart g h limits d c) :
    c.children = [] ∨ d < limits.maxReferenceDepth ∧
      c.children.length ≤ maxChildren limits ∧ ∀ x ∈ c.children, IsPart g h limits (d + 1) x := by
  rcases hc with hc | ⟨x, k, l, hc⟩
  · exact Or.inl (children_of_isAccessError hc)
  · exact children_of_capturesAs hc

/-- Every node of a captured tree is the capture of some value at its depth, or stands for a
getter that threw, and no node is deeper than the last level. -/
theorem isPart_of_hasNode {t : Captured} (ht : CapturesAs g h limits 0 v n t m)
    (hc : t.HasNode d c) : d ≤ limits.maxReferenceDepth ∧ IsPart g h limits d c := by
  induction hc with
  | root => exact ⟨Nat.zero_le _, Or.inr ⟨v, n, m, ht⟩⟩
  | child _ hx ih =>
    rcases children_of_isPart ih.2 with hnil | ⟨hd, -, hparts⟩
    · rw [hnil] at hx
      cases hx
    · exact ⟨hd, hparts _ hx⟩

/-- The number of nodes below a node, by the levels that remain for it. -/
theorem nodeCount_le_of_isPart {k : Nat} (hk : limits.maxReferenceDepth - d = k)
    (hc : IsPart g h limits d c) :
    c.nodeCount ≤ ∑ i ∈ range (k + 1), maxChildren limits ^ i := by
  -- induction on the levels that remain; a node without children is one of its own
  induction k generalizing d c with
  | zero =>
    rcases children_of_isPart hc with hnil | ⟨hd, -, -⟩
    · rw [Captured.nodeCount_of_children_nil hnil]
      simp
    · omega
  | succ k ih =>
    rcases children_of_isPart hc with hnil | ⟨hd, hlength, hparts⟩
    · refine Captured.nodeCount_le_of_children (hnil ▸ Nat.zero_le _) fun x hx => ?_
      rw [hnil] at hx
      cases hx
    · exact Captured.nodeCount_le_of_children hlength fun x hx =>
        ih (by omega) (hparts x hx)

/-! ## Main result -/

/-- That a node at a depth keeps the limits. -/
structure KeepsLimits (limits : CaptureLimits) (d : Nat) (c : Captured) : Prop where
  depth : d ≤ limits.maxReferenceDepth
  children : d = limits.maxReferenceDepth → c.children = []
  elements : ∀ cs, c.body = .elements cs → cs.length ≤ limits.maxCollectionSize
  entries : ∀ es, c.body = .entries es → es.length ≤ limits.maxCollectionSize
  text : c.type = "string" → ∀ s, c.body = .value s → Text.charCount s ≤ limits.maxLength

/-- The sizes of bodies, whatever they hold. -/
theorem length_of_capturesAs (hc : CapturesAs g h limits d v n c m) :
    (∀ cs, c.body = .elements cs → cs.length ≤ limits.maxCollectionSize) ∧
    (∀ es, c.body = .entries es → es.length ≤ limits.maxCollectionSize) ∧
    (c.type = "string" → ∀ s, c.body = .value s → Text.charCount s ≤ limits.maxLength) ∧
    ((∃ name, (h.kind v).shape = .error name) ∨
      ∀ fs, c.body = .fields fs → fs.length ≤ limits.maxFieldCount) := by
  cases hc.outcome with
  | leaf _ hleaf =>
    have hnil := children_of_isLeaf hleaf
    refine ⟨fun cs hcs => ?_, fun es hes => ?_,
      fun htype s hs => charCount_le_of_isLeaf hleaf htype hs, Or.inr fun fs hfs => ?_⟩
    · rw [Captured.children, hcs] at hnil
      rw [show cs = [] from hnil]
      exact Nat.zero_le _
    · rw [Captured.children, hes] at hnil
      cases es with
      | nil => exact Nat.zero_le _
      | cons e es => cases hnil
    · rw [Captured.children, hfs] at hnil
      rw [List.map_eq_nil_iff.1 hnil]
      exact Nat.zero_le _
  | depth _ _ hc =>
    subst hc
    exact ⟨fun _ hb => (nomatch hb), fun _ hb => (nomatch hb), fun _ _ hb => (nomatch hb),
      Or.inr fun _ hb => (nomatch hb)⟩
  | elements _ _ hcs hc =>
    subst hc
    rw [body_limited]
    refine ⟨fun cs' hb => ?_, fun _ hb => (nomatch hb), fun _ _ hb => (nomatch hb),
      Or.inr fun _ hb => (nomatch hb)⟩
    cases hb
    exact length_take_le hcs
  | entries _ _ hcs hc =>
    subst hc
    rw [body_limited]
    refine ⟨fun _ hb => (nomatch hb), fun es' hb => ?_, fun _ _ hb => (nomatch hb),
      Or.inr fun _ hb => (nomatch hb)⟩
    cases hb
    exact length_take_le hcs
  | @fields id fs _ _ _ hfs hc =>
    subst hc
    rw [body_limited]
    refine ⟨fun _ hb => (nomatch hb), fun _ hb => (nomatch hb), fun _ _ hb => (nomatch hb),
      Or.inr fun fs' hb => ?_⟩
    cases hb
    exact Nat.le_trans (OrderedTable.length_ofList_le fs) (length_take_le hfs)
  | error _ hshape hc _ _ =>
    subst hc
    exact ⟨fun _ hb => (nomatch hb), fun _ hb => (nomatch hb), fun _ _ hb => (nomatch hb),
      Or.inl ⟨_, hshape⟩⟩

theorem keepsLimits_of_isPart (hd : d ≤ limits.maxReferenceDepth)
    (hc : IsPart g h limits d c) : KeepsLimits limits d c := by
  have hchildren : d = limits.maxReferenceDepth → c.children = [] := by
    intro heq
    rcases children_of_isPart hc with hnil | ⟨hlt, -, -⟩
    · exact hnil
    · omega
  rcases hc with ⟨text, rfl⟩ | ⟨x, k, l, hc⟩
  · exact ⟨hd, hchildren, fun _ hb => (nomatch hb), fun _ hb => (nomatch hb),
      fun _ _ hb => (nomatch hb)⟩
  · obtain ⟨helements, hentries, htext, -⟩ := length_of_capturesAs hc
    exact ⟨hd, hchildren, helements, hentries, htext⟩

/-- **Captures are bounded.** Whatever the heap, the value, the limits, and the answers of the
getters, capturing ends with a tree of which every node keeps the limits. Each node is the
capture of some value at its depth or stands for a getter that threw, and one that is the
capture of a value has no more fields than the limit, unless that value is an error. The
whole tree has no more nodes than levels of `maxChildren` children each would have. -/
theorem capture_bounded (g : Getters) (h : Heap) (limits : CaptureLimits) (v : Value)
    (calls : Nat) :
    let t := ((capture g h limits v).run calls).1
    let b := max (2 * limits.maxCollectionSize) (max limits.maxFieldCount 4)
    (∀ d c, t.HasNode d c →
      KeepsLimits limits d c ∧
      (c.IsAccessError ∨ ∃ x n m, CapturesAs g h limits d x n c m) ∧
      ∀ x n m, CapturesAs g h limits d x n c m →
        (∃ name, (h.kind x).shape = .error name) ∨
          ∀ fs, c.body = .fields fs → fs.length ≤ limits.maxFieldCount) ∧
    t.nodeCount ≤ ∑ i ∈ range (limits.maxReferenceDepth + 1), b ^ i := by
  intro t b
  have ht : CapturesAs g h limits 0 v calls t _ := capturesAs_capture g h limits v calls
  refine ⟨fun d c hc => ?_, nodeCount_le_of_isPart rfl (Or.inr ⟨v, calls, _, ht⟩)⟩
  obtain ⟨hd, hpart⟩ := isPart_of_hasNode ht hc
  exact ⟨keepsLimits_of_isPart hd hpart, hpart,
    fun x n m hx => (length_of_capturesAs hx).2.2.2⟩

end Capture

end ProbeEngine
