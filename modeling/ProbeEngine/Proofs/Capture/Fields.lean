import ProbeEngine.Proofs.Capture.Truncation

/-!
# The fields of an object

The own properties of an object are captured in order, the first ones that the limit
keeps, and each is written under the text of its key. Keys are told apart better than
their texts: two symbols of one description, or a symbol and a string that reads like
it, make one field, and it holds the capture of the last of them. So no kept property
is lost exactly if their keys read differently (`ShowsFields.complete`), while the
marks count the properties and say nothing of a field that was written over
(`fields_of_keys_that_read_alike`).
-/

namespace ProbeEngine

open Host (Value Heap Kind PropertyKey Property ObjectId Getters)

namespace Capture

/-- The own properties of an object that the limit keeps. -/
def keptProperties (h : Heap) (limits : CaptureLimits) (id : ObjectId) :
    List (PropertyKey × Property) :=
  (h.object id).properties.entries.take limits.maxFieldCount

/-- The texts of their keys, under which they are captured. -/
def keptNames (h : Heap) (limits : CaptureLimits) (id : ObjectId) : List String :=
  (keptProperties h limits id).map fun p => p.1.text

theorem length_ownKeys (h : Heap) (id : ObjectId) :
    (h.ownKeys id).length = (h.object id).properties.entries.length :=
  List.length_map _

theorem length_keptProperties (h : Heap) (limits : CaptureLimits) (id : ObjectId) :
    (keptProperties h limits id).length = min (h.ownKeys id).length limits.maxFieldCount := by
  rw [keptProperties, List.length_take, length_ownKeys, Nat.min_comm]

/-- A kept property is what the object has of its own under that key. -/
theorem ownProperty?_of_mem_keptProperties {h : Heap} {limits : CaptureLimits} {id : ObjectId}
    (hkeys : (h.ownKeys id).Nodup) {p : PropertyKey × Property}
    (hp : p ∈ keptProperties h limits id) : h.ownProperty? id p.1 = some p.2 :=
  OrderedTable.get?_of_mem hkeys (List.mem_of_mem_take hp)

variable {g : Getters} {h : Heap} {limits : CaptureLimits} {d n m : Nat} {id : ObjectId}
  {c : Captured} {fs : List (String × Captured)}

/-- The fields are captured under the texts of the kept keys. -/
theorem map_fst_of_inTurn
    (hfs : InTurn (FieldCapturesAs g h limits d (.object id)) (keptProperties h limits id) n fs
      m) : fs.map (·.1) = keptNames h limits id :=
  hfs.map_eq fun _ _ _ _ hf => hf.1

/-- What the captured fields of an object are: `captures` are those of the kept properties, and
`fields` what remains of them where keys read alike. -/
structure ShowsFields (g : Getters) (h : Heap) (limits : CaptureLimits) (d : Nat)
    (id : ObjectId) (n : Nat) (c : Captured) (m : Nat)
    (captures fields : List (String × Captured)) : Prop where
  body : c.body = .fields fields
  inTurn : InTurn (FieldCapturesAs g h limits (d + 1) (.object id)) (keptProperties h limits id)
    n captures m
  own : (h.ownKeys id).Nodup →
    ∀ p ∈ keptProperties h limits id, h.ownProperty? id p.1 = some p.2
  names : fields.map (·.1) = (keptNames h limits id).eraseDups
  last : ∀ f ∈ fields, OrderedTable.lookup f.1 captures.reverse = some f.2
  complete : fields.length = min (h.ownKeys id).length limits.maxFieldCount ↔
    (keptNames h limits id).Nodup
  whole : (keptNames h limits id).Nodup → fields = captures
  marks : CutMarks limits.maxFieldCount (h.ownKeys id).length .fieldCount c

theorem showsFields_of_inTurn
    (hfs : InTurn (FieldCapturesAs g h limits (d + 1) (.object id)) (keptProperties h limits id)
      n fs m)
    (hbody : c.body = .fields (OrderedTable.ofList fs).entries)
    (hmarks : CutMarks limits.maxFieldCount (h.ownKeys id).length .fieldCount c) :
    ShowsFields g h limits d id n c m fs (OrderedTable.ofList fs).entries where
  body := hbody
  inTurn := hfs
  own hkeys _ hp := ownProperty?_of_mem_keptProperties hkeys hp
  names := by
    rw [← map_fst_of_inTurn hfs]
    exact OrderedTable.keys_ofList fs
  last f hf := by
    rw [← OrderedTable.get?_ofList]
    exact OrderedTable.get?_of_mem (OrderedTable.nodup_keys_ofList fs) hf
  complete := by
    rw [← map_fst_of_inTurn hfs, ← length_keptProperties, ← hfs.length_eq]
    exact OrderedTable.length_ofList_eq_iff fs
  whole hnames := by
    rw [← map_fst_of_inTurn hfs] at hnames
    exact OrderedTable.entries_ofList_of_nodup hnames
  marks := hmarks

/-- **The fields of an object.** An object that is captured by its own properties, above the
last level, has the captures of the first ones as its fields, in order and each under the text
of its key; the last one stands where several keys read alike, so that all are there exactly
if the texts differ. It is marked exactly if it has more properties than the limit. -/
theorem fields_of_object (hc : CapturesAs g h limits d (.object id) n c m)
    (hshape : (h.kind (.object id)).shape = .record) (hd : d < limits.maxReferenceDepth) :
    ∃ captures fields, ShowsFields g h limits d id n c m captures fields := by
  cases hc.outcome with
  | leaf hleaf _ => cases hshape.symm.trans hleaf
  | depth hdeep _ _ => omega
  | elements _ hxs _ _ => cases hshape.symm.trans hxs
  | entries _ hes _ _ => cases hshape.symm.trans hes
  | fields _ hid _ hfs hc =>
    cases hid
    subst hc
    refine ⟨_, _, showsFields_of_inTurn hfs (body_limited _ _ _ _ _) ?_⟩
    rw [length_ownKeys]
    exact cutMarks_limited _ _ _ _ _
  | error _ herror _ _ _ => cases hshape.symm.trans herror

/-- An object with two properties of which the limit keeps one. -/
theorem fields_of_two_keys :
    let g : Getters := ⟨fun _ _ _ receiver => .ok receiver⟩
    let id : ObjectId := ⟨0⟩
    let h : Heap := ⟨#[{ kind := .ordinary, properties :=
      ⟨[(.string "a", .data (.bool true)), (.string "b", .data .null)]⟩ }], 0⟩
    let limits : CaptureLimits := { maxFieldCount := 1 }
    let c := ((capture g h limits (.object id)).run 0).1
    ∃ fields, c.body = .fields fields ∧ fields.map (·.1) = ["a"] ∧
      c.reason = some .fieldCount ∧ c.size = some 2 := by
  intro g id h limits c
  obtain ⟨captures, fields, hfields⟩ := fields_of_object
    (capturesAs_capture g h limits (.object id) 0) rfl (by decide)
  exact ⟨fields, hfields.body, hfields.names, hfields.marks.1, hfields.marks.2⟩

/-- An object whose keys are two symbols of the same description: it has one field, which
holds the capture of the second property, and nothing says that the first one is missing. -/
theorem fields_of_keys_that_read_alike :
    let g : Getters := ⟨fun _ _ _ receiver => .ok receiver⟩
    let id : ObjectId := ⟨0⟩
    let h : Heap := ⟨#[{ kind := .ordinary, properties :=
      ⟨[(.symbol (.unique 0 (some "a")), .data (.bool true)),
        (.symbol (.unique 1 (some "a")), .data (.bool false))]⟩ }], 2⟩
    let c := ((capture g h {} (.object id)).run 0).1
    (h.kind (.object id)).shape = .record ∧ (h.ownKeys id).Nodup ∧
      min (h.ownKeys id).length ({} : CaptureLimits).maxFieldCount = 2 ∧
      c.body = .fields [("Symbol(a)", .primitive "boolean" "false")] ∧
      c.reason = none ∧ c.size = none := by
  intro g id h c
  refine ⟨rfl, by decide, rfl, rfl, rfl, rfl⟩

end Capture

end ProbeEngine
