import ProbeEngine.Proofs.Capture.Tree

/-!
# Prunings of captured values

A captured value `IsPruningOf` another one if every node of it stands where the other one has a
node of the same type; what the node holds begins what the other one holds, unless it was left
out for its depth, and is all of it if no reason is given for more. Nodes are compared by their
positions, and it suffices to compare the roots and, one by one, the children
(`IsPruningOf.node`).
-/

namespace ProbeEngine

/-! ## Lists that begin alike -/

/-- The members of a list are matched by the first ones of another list, in order. -/
inductive Begins {α β : Type} (S : α → β → Prop) : List α → List β → Prop
  | nil (bs : List β) : Begins S [] bs
  | cons {a : α} {b : β} {as : List α} {bs : List β} (head : S a b) (tail : Begins S as bs) :
      Begins S (a :: as) (b :: bs)

namespace Begins

variable {α β : Type} {S : α → β → Prop} {as : List α} {bs : List β}

theorem length_le (h : Begins S as bs) : as.length ≤ bs.length := by
  induction h with
  | nil bs => exact Nat.zero_le _
  | cons _ _ ih => exact Nat.succ_le_succ ih

theorem exists_getElem? (h : Begins S as bs) {i : Nat} {a : α} (ha : as[i]? = some a) :
    ∃ b, bs[i]? = some b ∧ S a b := by
  induction h generalizing i with
  | nil bs => simp at ha
  | cons head _ ih =>
    cases i with
    | zero =>
      simp only [List.getElem?_cons_zero, Option.some.injEq] at ha
      exact ⟨_, rfl, ha ▸ head⟩
    | succ i => exact ih ha

theorem of_forall₂ (h : List.Forall₂ S as bs) : Begins S as bs := by
  induction h with
  | nil => exact .nil []
  | cons head _ ih => exact .cons head ih

theorem append {cs : List α} {ds : List β} (hcs : List.Forall₂ S cs ds) (h : Begins S as bs) :
    Begins S (cs ++ as) (ds ++ bs) := by
  induction hcs with
  | nil => exact h
  | cons head _ ih => exact .cons head ih

theorem flatMap {γ δ : Type} {R : γ → δ → Prop} {f : α → List γ} {f' : β → List δ}
    (h : Begins S as bs) (hf : ∀ a b, S a b → List.Forall₂ R (f a) (f' b)) :
    Begins R (as.flatMap f) (bs.flatMap f') := by
  induction h with
  | nil bs => exact .nil _
  | cons head _ ih =>
    rw [List.flatMap_cons, List.flatMap_cons]
    exact append (hf _ _ head) ih

theorem map {γ δ : Type} {R : γ → δ → Prop} {f : α → γ} {f' : β → δ} (h : Begins S as bs)
    (hf : ∀ a b, S a b → R (f a) (f' b)) : Begins R (as.map f) (bs.map f') := by
  induction h with
  | nil bs => exact .nil _
  | cons head _ ih => exact .cons (hf _ _ head) ih

theorem map_prefix {γ : Type} {f : α → γ} {f' : β → γ} (h : Begins S as bs)
    (hf : ∀ a b, S a b → f a = f' b) : as.map f <+: bs.map f' := by
  induction h with
  | nil bs => exact List.nil_prefix
  | cons head _ ih =>
    rw [List.map_cons, List.map_cons, hf _ _ head]
    exact (List.prefix_cons_inj _).2 ih

/-- The first members of a list begin with fewer of them. -/
theorem take {P : α → Prop} (has : ∀ a ∈ as, P a) {k k' : Nat} (hk : k ≤ k') :
    Begins (fun a b => a = b ∧ P a) (as.take k) (as.take k') := by
  induction as generalizing k k' with
  | nil =>
    rw [List.take_nil, List.take_nil]
    exact .nil _
  | cons a as ih =>
    cases k with
    | zero => exact .nil _
    | succ k =>
      cases k' with
      | zero => omega
      | succ k' =>
        refine .cons ⟨rfl, has a List.mem_cons_self⟩ (ih (fun b hb => ?_) (by omega))
        exact has b (List.mem_cons_of_mem _ hb)

end Begins

/-! ## Nodes and trees -/

/-- A body begins another one: a text with its first characters, fields with the first names,
elements and entries with no more of them. -/
def CapturedBody.Begins {α : Type} : CapturedBody α → CapturedBody α → Prop
  | .value s, .value t => s.toList <+: t.toList
  | .null, .null => True
  | .fields fs, .fields gs => fs.map (·.1) <+: gs.map (·.1)
  | .elements xs, .elements ys => xs.length ≤ ys.length
  | .entries es, .entries fs => es.length ≤ fs.length
  | .empty, .empty => True
  | _, _ => False

theorem CapturedBody.Begins.refl {α : Type} (b : CapturedBody α) : b.Begins b := by
  cases b <;> simp [CapturedBody.Begins]

namespace Captured

/-- The node at a position, which is given by the numbers of the children on the way to it. -/
def at? : List Nat → Captured → Option Captured
  | [], c => some c
  | i :: path, c => c.children[i]?.bind (at? path)

/-- That one node is what lower limits leave of another one. -/
structure Prunes (c c' : Captured) : Prop where
  type : c.type = c'.type
  body : c.reason = some .depth ∨ c.body.Begins c'.body
  /-- What is given no reason is not less than the other one. -/
  whole : c.reason = none → c'.reason = none ∧ c'.body.Begins c.body

/-- Every node of one tree is what lower limits leave of the node at its position in another
one. -/
def IsPruningOf (c c' : Captured) : Prop :=
  ∀ path x, c.at? path = some x → ∃ x', c'.at? path = some x' ∧ x.Prunes x'

variable {c c' : Captured}

theorem Prunes.refl (c : Captured) : c.Prunes c where
  type := rfl
  body := Or.inr (.refl _)
  whole hnone := ⟨hnone, .refl _⟩

theorem IsPruningOf.refl (c : Captured) : c.IsPruningOf c :=
  fun _ x hx => ⟨x, hx, .refl x⟩

/-- A tree is a pruning if its root and the trees below are. -/
theorem IsPruningOf.node (hroot : c.Prunes c')
    (hbelow : Begins IsPruningOf c.children c'.children) : c.IsPruningOf c' := by
  intro path x hx
  cases path with
  | nil =>
    cases hx
    exact ⟨c', rfl, hroot⟩
  | cons i path =>
    obtain ⟨y, hy, hx⟩ := Option.bind_eq_some_iff.1 hx
    obtain ⟨y', hy', hprune⟩ := hbelow.exists_getElem? hy
    obtain ⟨x', hx', hprunes⟩ := hprune path x hx
    exact ⟨x', by rw [at?, hy', Option.bind_some, hx'], hprunes⟩

/-- Whatever stands where a node was left out for its depth, as long as the types agree. -/
theorem IsPruningOf.depth {type : String} (htype : c'.type = type) :
    (missing type .depth).IsPruningOf c' :=
  .node ⟨htype.symm, Or.inl rfl, fun hnone => nomatch hnone⟩ (.nil _)

/-! ## Fields -/

/-- That a list of fields begins another one, with a pruning under each name. -/
def FieldsBegin : List (String × Captured) → List (String × Captured) → Prop :=
  Begins fun p p' => p.1 = p'.1 ∧ p.2.IsPruningOf p'.2

namespace FieldsBegin

variable {fs fs' : List (String × Captured)}

theorem body (hfs : FieldsBegin fs fs') :
    (CapturedBody.fields fs).Begins (CapturedBody.fields fs') :=
  hfs.map_prefix fun _ _ hp => hp.1

/-- They are the same names if there are as many. -/
theorem body_of_length_le (hfs : FieldsBegin fs fs') (hlength : fs'.length ≤ fs.length) :
    (CapturedBody.fields fs').Begins (CapturedBody.fields fs) := by
  have hle : (fs'.map (·.1)).length ≤ (fs.map (·.1)).length := by
    rw [List.length_map, List.length_map]
    exact hlength
  have hnames : fs.map (·.1) = fs'.map (·.1) := List.IsPrefix.eq_of_length_le hfs.body hle
  show fs'.map (·.1) <+: fs.map (·.1)
  rw [hnames]

theorem parts (hfs : FieldsBegin fs fs') :
    Begins IsPruningOf (CapturedBody.fields fs).parts (CapturedBody.fields fs').parts :=
  hfs.map fun _ _ hp => hp.2

end FieldsBegin

end Captured

end ProbeEngine
