import ProbeEngine.Host.OfJson
import ProbeEngine.Proofs.Capture.Steps
import ProbeEngine.Proofs.Capture.Tree
import ProbeEngine.Proofs.Expr.Additions
import ProbeEngine.Proofs.Json.Equality

/-!
# Captures of JSON data

The host's value of a JSON value stands for it in the heap (`Heap.makes`). A capture in which no
reason stands for something missing is then the whole tree of the JSON value
(`CapturesAs.eq_tree`), whatever the limits, and from that tree the data can be read off:
**complete captures of JSON data are lossless** (`complete_captures_lossless`).
-/

namespace ProbeEngine

open Host (Value Heap PropertyKey Property ObjectId Getters)

/-! ## Host values of JSON -/

namespace Host.Heap

/-- A value stands for a JSON value by objects whose places are not below `start`: arrays for
arrays, and for objects plain objects that no other object is behind. -/
inductive Stands (h : Heap) (start : Nat) : Json → Value → Prop
  | null : Stands h start .null .null
  | bool (b : Bool) : Stands h start (.bool b) (.bool b)
  | integer (n : Int) : Stands h start (.integer n) (.number (Binary64.ofInt n))
  | float (x : Float) : Stands h start (.float x) (.number x)
  | string (s : String) : Stands h start (.string s) (.string s)
  | array {zs : List (Json × Value)} {id : ObjectId} (hstart : start ≤ id.index) (hid : h.Has id)
      (hobject : h.object id = { kind := .array (zs.map (·.2)) })
      (hitems : ∀ z ∈ zs, Stands h start z.1 z.2) :
      Stands h start (.array (zs.map (·.1))) (.object id)
  | object {zs : List (String × Json × Value)} {id : ObjectId} (hstart : start ≤ id.index)
      (hid : h.Has id)
      (hobject : h.object id = record (zs.map fun z => (z.1, z.2.2)))
      (hfields : ∀ z ∈ zs, Stands h start z.2.1 z.2.2) :
      Stands h start (.object (zs.map fun z => (z.1, z.2.1))) (.object id)

variable {h h' : Heap} {start start' : Nat} {j : Json} {v : Value}

/-- A value stands for the same in a heap with the same objects from the first place on. -/
theorem Stands.of_agree (hs : h.Stands start j v) (hstart : start' ≤ start)
    (hsize : h.objects.size ≤ h'.objects.size)
    (hagree : ∀ id, start ≤ id.index → h.Has id → h'.object id = h.object id) :
    h'.Stands start' j v := by
  induction hs with
  | null => exact .null
  | bool b => exact .bool b
  | integer n => exact .integer n
  | float x => exact .float x
  | string s => exact .string s
  | array hid hhas hobject _ ih =>
    exact .array (Nat.le_trans hstart hid) (Nat.lt_of_lt_of_le hhas hsize)
      ((hagree _ hid hhas).trans hobject) ih
  | object hid hhas hobject _ ih =>
    exact .object (Nat.le_trans hstart hid) (Nat.lt_of_lt_of_le hhas hsize)
      ((hagree _ hid hhas).trans hobject) ih

theorem Stands.extends (hs : h.Stands start j v) (hstart : start' ≤ start)
    (he : h.Extends h') : h'.Stands start' j v :=
  hs.of_agree hstart he.size_le fun id _ hid => he.object_eq id hid

/-- What making the values of some JSON values comes to: more objects, and in the end each
value stands for its own. -/
def MakesItems (js : List Json) : Prop :=
  ∀ h : Heap, h.Extends (h.ofJsonItems js).2 ∧
    ∃ zs : List (Json × Value), js = zs.map (·.1) ∧ (h.ofJsonItems js).1 = zs.map (·.2) ∧
      ∀ z ∈ zs, (h.ofJsonItems js).2.Stands h.objects.size z.1 z.2

def MakesFields (fs : List (String × Json)) : Prop :=
  ∀ h : Heap, h.Extends (h.ofJsonFields fs).2 ∧
    ∃ zs : List (String × Json × Value), fs = zs.map (fun z => (z.1, z.2.1)) ∧
      (h.ofJsonFields fs).1 = zs.map (fun z => (z.1, z.2.2)) ∧
      ∀ z ∈ zs, (h.ofJsonFields fs).2.Stands h.objects.size z.2.1 z.2.2

/-- What making the value of a JSON value comes to. -/
def Makes (j : Json) : Prop :=
  ∀ h : Heap, h.Extends (h.ofJson j).2 ∧ (h.ofJson j).2.Stands h.objects.size j (h.ofJson j).1

theorem makesItems {js : List Json} (hjs : ∀ j ∈ js, Makes j) : MakesItems js := by
  induction js with
  | nil => exact fun h => ⟨.refl h, [], rfl, rfl, nofun⟩
  | cons j js ih =>
    intro h
    obtain ⟨hfirst, hv⟩ := hjs j List.mem_cons_self h
    obtain ⟨hrest, zs, hzs, hvs, hall⟩ :=
      ih (fun x hx => hjs x (List.mem_cons_of_mem _ hx)) (h.ofJson j).2
    rw [ofJsonItems]
    refine ⟨hfirst.trans hrest, (j, (h.ofJson j).1) :: zs, ?_, ?_, fun z hz => ?_⟩
    · rw [List.map_cons, ← hzs]
    · rw [List.map_cons, ← hvs]
    · rcases List.mem_cons.1 hz with rfl | hz
      · exact hv.extends (Nat.le_refl _) hrest
      · exact (hall z hz).extends hfirst.size_le (.refl _)

theorem makesFields {fs : List (String × Json)} (hfs : ∀ f ∈ fs, Makes f.2) : MakesFields fs := by
  induction fs with
  | nil => exact fun h => ⟨.refl h, [], rfl, rfl, nofun⟩
  | cons f fs ih =>
    intro h
    obtain ⟨name, j⟩ := f
    obtain ⟨hfirst, hv⟩ := hfs (name, j) List.mem_cons_self h
    obtain ⟨hrest, zs, hzs, hvs, hall⟩ :=
      ih (fun x hx => hfs x (List.mem_cons_of_mem _ hx)) (h.ofJson j).2
    rw [ofJsonFields]
    refine ⟨hfirst.trans hrest, (name, j, (h.ofJson j).1) :: zs, ?_, ?_, fun z hz => ?_⟩
    · rw [List.map_cons, ← hzs]
    · rw [List.map_cons, ← hvs]
    · rcases List.mem_cons.1 hz with rfl | hz
      · exact hv.extends (Nat.le_refl _) hrest
      · exact (hall z hz).extends hfirst.size_le (.refl _)

theorem ofJson_array (h : Heap) (items : List Json) :
    h.ofJson (.array items) = (.object ⟨(h.ofJsonItems items).2.objects.size⟩,
      ((h.ofJsonItems items).2.allocateKind (.array (h.ofJsonItems items).1)).2) := by
  rw [ofJson]
  rfl

theorem ofJson_object (h : Heap) (fields : List (String × Json)) :
    h.ofJson (.object fields) = (.object ⟨h.objects.size⟩,
      ((h.allocateKind .ordinary).2.ofJsonFields fields).2.setAll ⟨h.objects.size⟩
        ((h.allocateKind .ordinary).2.ofJsonFields fields).1) := by
  rw [ofJson]
  rfl

theorem makes_array {items : List Json} (hitems : MakesItems items) : Makes (.array items) := by
  intro h
  obtain ⟨he, zs, rfl, hvs, hall⟩ := hitems h
  have hnew := (h.ofJsonItems (zs.map (·.1))).2.extends_allocateKind
    (.array (h.ofJsonItems (zs.map (·.1))).1)
  rw [ofJson_array]
  refine ⟨he.trans hnew, .array he.size_le ?_ ?_ fun z hz => ?_⟩
  · rw [Has, allocateKind, size_allocate]
    exact Nat.lt_succ_self _
  · rw [allocateKind, object_allocate, if_pos rfl, hvs]
  · exact (hall z hz).extends (Nat.le_refl _) hnew

/-- The object is there before the values of its fields, and written when they are. -/
theorem makes_object {fields : List (String × Json)} (hfields : MakesFields fields) :
    Makes (.object fields) := by
  intro h
  obtain ⟨he, zs, rfl, hvs, hall⟩ := hfields (h.allocateKind .ordinary).2
  have hfirst := h.extends_allocateKind .ordinary
  have hsize : (h.allocateKind .ordinary).2.objects.size = h.objects.size + 1 := size_allocate _ _
  have hid : (h.allocateKind .ordinary).2.Has ⟨h.objects.size⟩ := by
    rw [Has, hsize]
    exact Nat.lt_succ_self _
  have hempty : ((h.allocateKind .ordinary).2.ofJsonFields (zs.map fun z => (z.1, z.2.1))).2.object
      ⟨h.objects.size⟩ = { kind := .ordinary } := by
    rw [he.object_eq _ hid, allocateKind, object_allocate, if_pos rfl]
  rw [ofJson_object]
  refine ⟨(hfirst.trans he).setAll (Nat.le_refl _) _, .object (Nat.le_refl _) ?_ ?_ fun z hz => ?_⟩
  · rw [Has, size_setAll]
    exact Nat.lt_of_lt_of_le hid he.size_le
  · rw [← hvs]
    exact object_setAll_of_new (Nat.lt_of_lt_of_le hid he.size_le) hempty _
  · refine (hall z hz).of_agree hfirst.size_le (Nat.le_of_eq (size_setAll _ _ _).symm)
      fun i hi _ => ?_
    have hne : i ≠ ⟨h.objects.size⟩ := by
      rintro rfl
      rw [hsize] at hi
      exact Nat.not_succ_le_self _ hi
    exact (object_setAll _ _ _ _).trans (if_neg fun hc => hne hc.1)

/-- **The value that is made of a JSON value stands for it.** -/
theorem makes (j : Json) : Makes j := by
  induction j using Json.induction_children with
  | h j ih =>
    cases j with
    | null => exact fun h => ⟨.refl h, .null⟩
    | bool b => exact fun h => ⟨.refl h, .bool b⟩
    | integer n => exact fun h => ⟨.refl h, .integer n⟩
    | float x => exact fun h => ⟨.refl h, .float x⟩
    | string s => exact fun h => ⟨.refl h, .string s⟩
    | array items => exact makes_array (makesItems ih)
    | object fields => exact makes_object (makesFields fun f hf => ih f.2 (List.mem_map_of_mem hf))

end Host.Heap

/-! ## Trees of JSON values -/

namespace Json

mutual

/-- The captured value that shows the whole of a JSON value. -/
def tree : Json → Captured
  | .null => .whole "null" .null
  | .bool b => .primitive "boolean" (Value.boolText b)
  | .integer n => .primitive "number" (Number.format (Binary64.ofInt n))
  | .float x => .primitive "number" (Number.format x)
  | .string s => .primitive "string" s
  | .array items => .whole "Array" (.elements (itemTrees items))
  | .object fields => .whole "Object" (.fields (OrderedTable.ofList (fieldTrees fields)).entries)

/-- The captured values of some items. -/
def itemTrees : List Json → List Captured
  | [] => []
  | j :: js => tree j :: itemTrees js

/-- The captured values of some fields. -/
def fieldTrees : List (String × Json) → List (String × Captured)
  | [] => []
  | (name, j) :: fs => (name, tree j) :: fieldTrees fs

end

theorem itemTrees_eq (js : List Json) : itemTrees js = js.map tree := by
  induction js with
  | nil => rfl
  | cons j js ih => rw [itemTrees, ih, List.map_cons]

theorem fieldTrees_eq (fs : List (String × Json)) :
    fieldTrees fs = fs.map fun f => (f.1, tree f.2) := by
  induction fs with
  | nil => rfl
  | cons f fs ih => rw [fieldTrees, ih, List.map_cons]

end Json

/-! ## Complete captures -/

namespace Captured

theorem HasNode.of_child {c x y : Captured} {d : Nat} (hx : x ∈ c.children) (hy : x.HasNode d y) :
    c.HasNode (d + 1) y := by
  induction hy with
  | root => exact .child .root hx
  | child _ hz ih => exact .child ih hz

/-- A captured value in which no reason stands for something missing. -/
def Complete (c : Captured) : Prop := ∀ d x, c.HasNode d x → x.reason = none

variable {c : Captured}

theorem Complete.reason_eq (hc : c.Complete) : c.reason = none := hc 0 c .root

theorem Complete.of_child (hc : c.Complete) {x : Captured} (hx : x ∈ c.children) : x.Complete :=
  fun d y hy => hc (d + 1) y (hy.of_child hx)

theorem HasNode.cases_child {c x : Captured} {d : Nat} (hx : c.HasNode d x) :
    x = c ∨ ∃ y ∈ c.children, ∃ e, y.HasNode e x := by
  induction hx with
  | root => exact .inl rfl
  | child _ hz ih =>
    rcases ih with rfl | ⟨y, hy, e, hx⟩
    · exact .inr ⟨_, hz, 0, .root⟩
    · exact .inr ⟨y, hy, e + 1, .child hx hz⟩

theorem Complete.node (hreason : c.reason = none) (hchildren : ∀ x ∈ c.children, x.Complete) :
    c.Complete := by
  intro d x hx
  rcases hx.cases_child with rfl | ⟨y, hy, e, hx⟩
  · exact hreason
  · exact hchildren y hy e x hx

end Captured

/-- Nothing is missing in the tree of a JSON value. -/
theorem Json.complete_tree (j : Json) : j.tree.Complete := by
  induction j using Json.induction_children with
  | h j ih =>
    refine .node (by cases j <;> rfl) fun x hx => ?_
    cases j with
    | array items =>
      rw [tree, itemTrees_eq] at hx
      obtain ⟨y, hy, rfl⟩ := List.mem_map.1 hx
      exact ih y hy
    | object fields =>
      rw [tree, fieldTrees_eq] at hx
      obtain ⟨f, hf, rfl⟩ := List.mem_map.1 hx
      obtain ⟨f', hf', rfl⟩ := List.mem_map.1 (OrderedTable.mem_of_mem_ofList hf)
      exact ih f'.2 (List.mem_map_of_mem hf')
    | _ => cases hx

namespace Capture

variable {g : Getters} {h : Heap} {limits : CaptureLimits} {d : Nat} {v : Value} {n m : Nat}
  {c : Captured}

theorem CapturesAs.eq_of_leaf (hc : CapturesAs g h limits d v n c m) {leaf : Captured}
    (hleaf : captureLeaf? limits (h.kind v) = some leaf) : c = leaf := by
  rw [CapturesAs, captureWithin_leaf hleaf] at hc
  exact (Prod.mk.inj hc).1.symm

/-- A text of which nothing is missing is whole. -/
theorem captureText_of_complete {s : String} (hc : (captureText limits s).Complete) :
    captureText limits s = .primitive "string" s := by
  by_cases hn : Text.charCount s ≤ limits.maxLength
  · exact if_pos hn
  · have hcut : (captureText limits s).reason = some .length := by
      simp only [captureText, if_neg hn]
      rfl
    cases hcut.symm.trans hc.reason_eq

/-- A body of which nothing is missing has all its parts. -/
theorem limited_of_complete {limit total : Nat} {reason : NotCaptured} {type : String}
    {body : CapturedBody Captured} (hc : (limited limit total reason type body).Complete) :
    total ≤ limit ∧ limited limit total reason type body = .whole type body := by
  have hreason := hc.reason_eq
  unfold limited at hreason ⊢
  split at hreason
  · cases hreason
  · rename_i hn
    exact ⟨Nat.le_of_not_lt hn, if_neg hn⟩

/-- An object of which nothing is missing was captured by its parts. -/
theorem CapturesAs.of_complete {id : ObjectId} (hc : CapturesAs g h limits d (.object id) n c m)
    (hv : (h.kind (.object id)).IsNested) (hcomplete : c.Complete) :
    (captureParts (captureWithin g h limits (limits.maxReferenceDepth - (d + 1))) g h limits id
      (h.kind (.object id))).run n = (c, m) := by
  rcases capturesAs_cases hc with hleaf | ⟨id, -, -, -, rfl⟩ | ⟨id, hid, -, -, hparts⟩
  · rw [(captureLeaf?_eq_none_iff limits _).2 hv] at hleaf
    cases hleaf
  · cases hcomplete.reason_eq
  · cases hid
    exact hparts

theorem constructorName_of_record {id : ObjectId} {ps : List (String × Value)}
    (hid : h.object id = Heap.record ps) : h.constructorName id = "Object" := by
  have hchain : h.chain none = [] := by
    rw [Heap.chain]
    cases h.objects.size <;> rfl
  rw [Heap.constructorName, hid]
  show ((h.classNames id).head?.getD "Object") = "Object"
  rw [Heap.classNames, hid]
  show ((h.chain none).filterMap _).head?.getD "Object" = "Object"
  rw [hchain]
  rfl

/-- The items of an array, each captured as its tree. -/
theorem eq_tree_array {zs : List (Json × Value)} {id : ObjectId}
    (hobject : h.object id = { kind := .array (zs.map (·.2)) })
    (hc : CapturesAs g h limits d (.object id) n c m) (hcomplete : c.Complete)
    (hitems : ∀ z ∈ zs, ∀ n c m, CapturesAs g h limits (d + 1) z.2 n c m → c.Complete →
      c = z.1.tree) : c = (Json.array (zs.map (·.1))).tree := by
  have hkind : h.kind (.object id) = .array (zs.map (·.2)) := by
    rw [Heap.kind, hobject]
    rfl
  have hparts := hc.of_complete (by simp [hkind, Host.Kind.IsNested, Host.Kind.shape]) hcomplete
  rw [hkind] at hparts
  obtain ⟨cs, hcs, rfl⟩ := of_captureElements hparts
  obtain ⟨hall, hwhole⟩ := limited_of_complete hcomplete
  rw [hwhole] at hcomplete ⊢
  rw [List.take_of_length_le hall] at hcs
  have htrees : cs.map (fun c => c) = zs.map fun z => z.1.tree :=
    hcs.of_map.map_eq_of_mem fun z hz x hx n m hx' =>
      hitems z hz n x m hx' (hcomplete.of_child hx)
  rw [Json.tree, Json.itemTrees_eq, List.map_map, ← List.map_id' cs, htrees]
  rfl

/-- The fields of a plain object, each captured as its tree. -/
theorem eq_tree_object {zs : List (String × Json × Value)} {id : ObjectId}
    (hobject : h.object id = Heap.record (zs.map fun z => (z.1, z.2.2)))
    (hc : CapturesAs g h limits d (.object id) n c m) (hcomplete : c.Complete)
    (hfields : ∀ z ∈ zs, ∀ n c m, CapturesAs g h limits (d + 1) z.2.2 n c m → c.Complete →
      c = z.2.1.tree) : c = (Json.object (zs.map fun z => (z.1, z.2.1))).tree := by
  have hkind : h.kind (.object id) = .object := by
    rw [Heap.kind, hobject]
    rfl
  have hentries : (h.object id).properties.entries =
      (OrderedTable.ofList zs).entries.map fun z => (.string z.1, .data z.2.2) := by
    rw [hobject, Heap.record, Heap.dataProperties, List.map_map]
    exact OrderedTable.entries_ofList_map (fun _ _ => PropertyKey.string.inj)
      (fun z : Json × Value => Property.data z.2) zs
  have htree : (OrderedTable.ofList (Json.fieldTrees (zs.map fun z => (z.1, z.2.1)))).entries =
      (OrderedTable.ofList zs).entries.map fun z => (z.1, z.2.1.tree) := by
    rw [Json.fieldTrees_eq, List.map_map]
    exact OrderedTable.entries_ofList_map Function.injective_id
      (fun z : Json × Value => z.1.tree) zs
  have hparts := hc.of_complete (by simp [hkind, Host.Kind.IsNested, Host.Kind.shape]) hcomplete
  rw [hkind] at hparts
  obtain ⟨fs, hfs, rfl⟩ := of_captureFields hparts
  obtain ⟨hall, hwhole⟩ := limited_of_complete hcomplete
  rw [hwhole] at hcomplete ⊢
  rw [List.take_of_length_le hall, hentries] at hfs
  have hnames : fs.map (·.1) = (OrderedTable.ofList zs).keys :=
    hfs.of_map.map_eq fun z n f m hf => hf.1
  have hdistinct : (OrderedTable.ofList fs).entries = fs :=
    OrderedTable.entries_ofList_of_nodup (hnames ▸ OrderedTable.nodup_keys_ofList zs)
  have htrees : fs.map (fun f => f) =
      (OrderedTable.ofList zs).entries.map fun z => (z.1, z.2.1.tree) := by
    refine hfs.of_map.map_eq_of_mem fun z hz f hf n m hcaptured => ?_
    obtain ⟨hname, hvalue⟩ := hcaptured
    cases hvalue with
    | data hvalue =>
      refine Prod.ext hname (hfields z (OrderedTable.mem_of_mem_ofList hz) n f.2 m hvalue ?_)
      exact hcomplete.of_child (List.mem_map_of_mem (by rwa [hdistinct]))
  rw [Json.tree, htree, ← htrees, List.map_id', hdistinct, constructorName_of_record hobject]

/-- **A complete capture of a JSON value is its tree**, whatever the limits. -/
theorem CapturesAs.eq_tree {start : Nat} {j : Json} (hs : h.Stands start j v)
    (hc : CapturesAs g h limits d v n c m) (hcomplete : c.Complete) : c = j.tree := by
  induction hs generalizing d n c m with
  | null => exact hc.eq_of_leaf rfl
  | bool b => exact hc.eq_of_leaf rfl
  | integer n => exact hc.eq_of_leaf rfl
  | float x => exact hc.eq_of_leaf rfl
  | string s =>
    obtain rfl := hc.eq_of_leaf rfl
    rw [captureText_of_complete hcomplete, Json.tree]
  | array _ _ hobject _ ih =>
    exact eq_tree_array hobject hc hcomplete fun z hz _ _ _ hz' => ih z hz hz'
  | object _ _ hobject _ ih =>
    exact eq_tree_object hobject hc hcomplete fun z hz _ _ _ hz' => ih z hz hz'

end Capture

/-! ## Equal trees -/

/-- Two bodies that hold the same, by what it is for their parts to be the same. The fields of
an object are known by their names, in whatever order they stand. -/
inductive CapturedBody.Alike {α : Type} (R : α → α → Prop) :
    CapturedBody α → CapturedBody α → Prop
  | value (text : String) : Alike R (.value text) (.value text)
  | null : Alike R .null .null
  | fields {fs gs : List (String × α)}
      (hnames : ∀ name, (OrderedTable.lookup name fs).isSome =
        (OrderedTable.lookup name gs).isSome)
      (hfields : ∀ name x y, OrderedTable.lookup name fs = some x →
        OrderedTable.lookup name gs = some y → R x y) :
      Alike R (.fields fs) (.fields gs)
  | elements {xs ys : List α} (hlength : xs.length = ys.length)
      (helements : ∀ (i : Nat) x y, xs[i]? = some x → ys[i]? = some y → R x y) :
      Alike R (.elements xs) (.elements ys)
  | entries {es ds : List (α × α)} (hlength : es.length = ds.length)
      (hkeys : ∀ (i : Nat) e d, es[i]? = some e → ds[i]? = some d → R e.1 d.1)
      (hvalues : ∀ (i : Nat) e d, es[i]? = some e → ds[i]? = some d → R e.2 d.2) :
      Alike R (.entries es) (.entries ds)
  | empty : Alike R .empty .empty

/-- Two captured values that are equal as trees. -/
inductive Captured.Same : Captured → Captured → Prop
  | node {type : String} {body body' : CapturedBody Captured} {truncated : Bool}
      {size : Option Nat} {reason : Option NotCaptured} (hbody : body.Alike Same body') :
      Same (.mk type body truncated size reason) (.mk type body' truncated size reason)

namespace Captured

variable {c c' : Captured}

theorem Same.type_eq (h : Same c c') : c.type = c'.type := by
  cases h
  rfl

theorem Same.body_alike (h : Same c c') : c.body.Alike Same c'.body := by
  cases h
  assumption

theorem Same.refl (c : Captured) : Same c c := by
  induction c using induction_children with
  | h c ih =>
    obtain ⟨type, body, truncated, size, reason⟩ := c
    refine .node ?_
    cases body with
    | value text => exact .value text
    | null => exact .null
    | empty => exact .empty
    | fields fs =>
      refine .fields (fun _ => rfl) fun name x y hx hy => ?_
      cases hx.symm.trans hy
      have hmem : (name, x) ∈ fs := OrderedTable.mem_of_get? (t := ⟨fs⟩) hx
      exact ih x (List.mem_map_of_mem hmem)
    | elements xs =>
      refine .elements rfl fun i x y hx hy => ?_
      cases hx.symm.trans hy
      exact ih x (List.mem_of_getElem? hx)
    | entries es =>
      have hparts : ∀ e ∈ es, Same e.1 e.1 ∧ Same e.2 e.2 := fun e he =>
        ⟨ih _ (List.mem_flatMap.2 ⟨e, he, .head _⟩),
          ih _ (List.mem_flatMap.2 ⟨e, he, .tail _ (.head _)⟩)⟩
      refine .entries rfl (fun i e d he hd => ?_) fun i e d he hd => ?_
      · cases he.symm.trans hd
        exact (hparts e (List.mem_of_getElem? he)).1
      · cases he.symm.trans hd
        exact (hparts e (List.mem_of_getElem? he)).2

end Captured

namespace CapturedBody.Alike

variable {α : Type} {R : α → α → Prop}

theorem value_eq {text text' : String} (h : Alike R (.value text) (.value text')) :
    text = text' := by
  cases h
  rfl

theorem of_elements {xs ys : List α} (h : Alike R (.elements xs) (.elements ys)) :
    xs.length = ys.length ∧ ∀ (i : Nat) x y, xs[i]? = some x → ys[i]? = some y → R x y := by
  cases h
  exact ⟨‹_›, ‹_›⟩

theorem of_fields {fs gs : OrderedTable String α}
    (h : Alike R (.fields fs.entries) (.fields gs.entries)) :
    (∀ name, (fs.get? name).isSome = (gs.get? name).isSome) ∧
      ∀ name x y, fs.get? name = some x → gs.get? name = some y → R x y := by
  cases h
  exact ⟨‹_›, ‹_›⟩

end CapturedBody.Alike

/-! ## Reading trees -/

namespace Json

/-- The type that the tree of a value shows. -/
def typeName : Json → String
  | .null => "null"
  | .bool _ => "boolean"
  | .integer _ => "number"
  | .float _ => "number"
  | .string _ => "string"
  | .array _ => "Array"
  | .object _ => "Object"

theorem type_tree (j : Json) : j.tree.type = j.typeName := by
  cases j <;> rfl

variable {j k : Json}

/-- A safe number is shown by its digits. -/
theorem tree_of_number (hj : j.HasSafeNumbers) (hnumber : j.typeName = "number") :
    ∃ n, j.whole? = some n ∧ j.tree = .primitive "number" (Value.bigintText n) := by
  have hdouble : ∃ x, j.number? = some x ∧ j.tree = .primitive "number" (Number.format x) := by
    cases j with
    | integer n => exact ⟨_, rfl, rfl⟩
    | float x => exact ⟨_, rfl, rfl⟩
    | _ => simp [typeName] at hnumber
  obtain ⟨x, hx, htree⟩ := hdouble
  obtain ⟨n, hn, hsafe⟩ := hj j .self (Option.isSome_of_eq_some hx)
  refine ⟨n, hn, ?_⟩
  rw [htree, Number.format_eq_bigintText (integer?_of_whole? hx hn hsafe) (by omega)]

theorem same_of_number (hj : j.HasSafeNumbers) (hk : k.HasSafeNumbers)
    (hjn : j.typeName = "number") (hkn : k.typeName = "number")
    (h : Captured.Same j.tree k.tree) : Same j k := by
  obtain ⟨m, hm, hjtree⟩ := tree_of_number hj hjn
  obtain ⟨n, hn, hktree⟩ := tree_of_number hk hkn
  rw [hjtree, hktree] at h
  obtain rfl : m = n := Value.bigintText_injective h.body_alike.value_eq
  exact .number hm hn

theorem get?_fieldTrees (fs : List (String × Json)) (name : String) :
    (OrderedTable.ofList (fieldTrees fs)).get? name = (field? fs name).map tree := by
  rw [fieldTrees_eq]
  exact OrderedTable.get?_ofList_map tree fs name

/-- **A tree tells what data it shows.** -/
theorem same_of_tree (hj : j.HasSafeNumbers) (hk : k.HasSafeNumbers)
    (h : Captured.Same j.tree k.tree) : Same j k := by
  induction j using induction_children generalizing k with
  | h j ih =>
    have htype : j.typeName = k.typeName := by
      rw [← type_tree, ← type_tree]
      exact h.type_eq
    cases j with
    | null =>
      cases k with
      | null => exact .null
      | _ => simp [typeName] at htype
    | bool b =>
      cases k with
      | bool b' =>
        have htext : Value.boolText b = Value.boolText b' := h.body_alike.value_eq
        obtain rfl : b = b' := by
          revert htext
          cases b <;> cases b' <;> decide
        exact .bool b
      | _ => simp [typeName] at htype
    | integer n => exact same_of_number hj hk rfl htype.symm h
    | float x => exact same_of_number hj hk rfl htype.symm h
    | string s =>
      cases k with
      | string s' =>
        obtain rfl : s = s' := h.body_alike.value_eq
        exact .string s
      | _ => simp [typeName] at htype
    | array items =>
      cases k with
      | array others =>
        obtain ⟨hlength, helements⟩ := h.body_alike.of_elements
        rw [itemTrees_eq, itemTrees_eq] at helements hlength
        rw [List.length_map, List.length_map] at hlength
        refine .array hlength fun i x y hx hy => ?_
        have hmx : x ∈ (array items).children := List.mem_of_getElem? hx
        have hmy : y ∈ (array others).children := List.mem_of_getElem? hy
        refine ih x hmx (hj.of_child hmx) (hk.of_child hmy) (helements i _ _ ?_ ?_)
        · rw [List.getElem?_map, hx, Option.map_some]
        · rw [List.getElem?_map, hy, Option.map_some]
      | _ => simp [typeName] at htype
    | object fields =>
      cases k with
      | object others =>
        obtain ⟨hnames, hfields⟩ := h.body_alike.of_fields
        simp only [get?_fieldTrees, Option.isSome_map] at hnames
        refine .object hnames fun name x y hx hy => ?_
        have hmx := mem_children_of_field? hx
        have hmy := mem_children_of_field? hy
        refine ih x hmx (hj.of_child hmx) (hk.of_child hmy) (hfields name _ _ ?_ ?_)
        · rw [get?_fieldTrees, hx, Option.map_some]
        · rw [get?_fieldTrees, hy, Option.map_some]
      | _ => simp [typeName] at htype

end Json

/-! ## Main result -/

/-- The capture of the value that the host makes of a JSON value, when some getters ran. -/
def Capture.captureJson (g : Getters) (h : Heap) (limits : CaptureLimits) (n : Nat) (j : Json) :
    Captured :=
  ((capture g (h.ofJson j).2 limits (h.ofJson j).1).run n).1

open Capture

/-- **Complete captures of JSON data are lossless.** If the captures of the values that the host
makes of two JSON values, each in any heap and within any limits, have no reason anywhere why
something is missing, and are equal as trees, then the JSON values are the same data. -/
theorem complete_captures_lossless {j k : Json} (hj : j.HasSafeNumbers) (hk : k.HasSafeNumbers)
    {g g' : Getters} {h h' : Heap} {limits limits' : CaptureLimits} {n n' : Nat}
    (hcomplete : (captureJson g h limits n j).Complete)
    (hcomplete' : (captureJson g' h' limits' n' k).Complete)
    (hsame : Captured.Same (captureJson g h limits n j) (captureJson g' h' limits' n' k)) :
    Json.Same j k := by
  have htree : captureJson g h limits n j = j.tree :=
    CapturesAs.eq_tree (h.makes j).2 (capturesAs_capture g _ limits _ n) hcomplete
  have htree' : captureJson g' h' limits' n' k = k.tree :=
    CapturesAs.eq_tree (h'.makes k).2 (capturesAs_capture g' _ limits' _ n') hcomplete'
  rw [htree, htree'] at hsame
  exact Json.same_of_tree hj hk hsame

/-- An integer, and the double that it is: the captures of the two values are the same tree. -/
theorem complete_captures_of_integer_and_double :
    let j : Json := .object [("ids", .array [.integer 3, .string "three"])]
    let k : Json := .object [("ids", .array [.float (Binary64.ofInt 3), .string "three"])]
    let g : Getters := ⟨fun _ _ _ receiver => .ok receiver⟩
    (captureJson g .empty {} 0 j).Complete ∧ (captureJson g .empty {} 0 k).Complete ∧
      Captured.Same (captureJson g .empty {} 0 j) (captureJson g .empty {} 0 k) ∧
      Json.Same j k := by
  intro j k g
  have hsafe : ∀ x : Json, x.HasSafeNumbers →
      (Json.object [("ids", .array [x, .string "three"])]).HasSafeNumbers := fun x hx =>
    .node nofun (List.forall_mem_singleton.2
      (.node nofun (List.forall_mem_cons.2 ⟨hx, List.forall_mem_singleton.2 (.node nofun nofun)⟩)))
  have hinteger : (Json.integer 3).HasSafeNumbers :=
    .node (fun _ => ⟨3, rfl, by decide⟩) nofun
  have hdouble : (Json.float (Binary64.ofInt 3)).HasSafeNumbers :=
    .node (fun _ => ⟨3, Binary64.integer?_ofInt (n := 3) (by decide), by decide⟩) nofun
  have hj : captureJson g .empty {} 0 j = j.tree := rfl
  have hk : captureJson g .empty {} 0 k = k.tree := rfl
  have hcomplete := hj ▸ Json.complete_tree j
  have hcomplete' := hk ▸ Json.complete_tree k
  have hsame : Captured.Same (captureJson g .empty {} 0 j) (captureJson g .empty {} 0 k) := by
    rw [hj, hk]
    exact .refl _
  exact ⟨hcomplete, hcomplete', hsame, complete_captures_lossless (hsafe _ hinteger)
    (hsafe _ hdouble) hcomplete hcomplete' hsame⟩

end ProbeEngine
