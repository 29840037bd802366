import ProbeEngine.Proofs.Capture.Fields

/-!
# The limit on fields

Two sorts of values are captured by fields. A plain object or a function keeps the limit on
fields and is marked if it has more of them than that. An error has its own fields, three
or four, and is captured by all of them whatever the limit is, without a mark. So a node keeps
the limit exactly if it is not that of an error with too many fields, and all nodes of all
captures keep it exactly if the limit leaves room for every error (`field_limit_exact`).
-/

namespace ProbeEngine

open Host (Value Heap Kind PropertyKey Property ObjectId Getters)

namespace Capture

variable {g : Getters} {h : Heap} {limits : CaptureLimits} {d : Nat} {v : Value} {n m : Nat}
  {c : Captured} {id : ObjectId} {fs : List (String × Captured)}

/-- How many fields a value has that could be captured, if it is captured by its fields. -/
def sourceFields (h : Heap) : Value → Nat
  | .object id =>
    match (h.kind (.object id)).shape with
    | .record => (h.ownKeys id).length
    | .error _ => (errorFields h id).length
    | _ => 0
  | _ => 0

/-- That a node with some fields keeps the limit: there are no more of them, and it is marked
if its source has more. -/
def KeepsFieldLimit (limits : CaptureLimits) (total : Nat) (fs : List (String × Captured))
    (c : Captured) : Prop :=
  fs.length ≤ limits.maxFieldCount ∧
    (limits.maxFieldCount < total → c.reason = some .fieldCount)

/-! ## Errors -/

theorem kind_of_shape_error {k : Kind} {name : String} (hk : k.shape = .error name) :
    k = .error name := by
  cases k with
  | error e =>
    cases hk
    rfl
  | _ => cases hk

/-- An error that is captured above the last level has all its fields, and no mark. -/
theorem fields_of_error (hc : CapturesAs g h limits d (.object id) n c m) {name : String}
    (hshape : (h.kind (.object id)).shape = .error name) (hd : d < limits.maxReferenceDepth) :
    ∃ fs, c = .whole name (.fields fs) ∧ fs.map (·.1) = errorFields h id := by
  rcases capturesAs_cases hc with hleaf | ⟨i, -, -, hdeep, -⟩ | ⟨i, hid, -, -, hparts⟩
  · cases hshape.symm.trans (shape_of_captureLeaf? hleaf)
  · omega
  · cases hid
    rw [kind_of_shape_error hshape] at hparts
    obtain ⟨fs, hc, hnames, -⟩ := fields_of_captureError hparts
    exact ⟨fs, hc, hnames⟩

theorem length_errorFields_le (h : Heap) (id : ObjectId) : (errorFields h id).length ≤ 4 :=
  (errorFields_sublist h id).length_le

/-! ## Nodes with fields -/

theorem body_ne_fields_of_isLeaf (hc : IsLeaf limits c) : c.body ≠ .fields fs := by
  cases hc with
  | text s =>
    obtain ⟨t, ht⟩ := body_captureText limits s
    rw [ht]
    exact fun hb => nomatch hb
  | _ => exact fun hb => nomatch hb

/-- A node with fields is the capture of a record, which keeps the limit, or of an error above
the last level. -/
theorem source_of_fields (hc : CapturesAs g h limits d v n c m) (hfs : c.body = .fields fs) :
    ((h.kind v).shape = .record ∧ KeepsFieldLimit limits (sourceFields h v) fs c) ∨
      d < limits.maxReferenceDepth ∧
        ∃ id name, v = .object id ∧ (h.kind v).shape = .error name := by
  cases hc.outcome with
  | leaf _ hleaf => exact absurd hfs (body_ne_fields_of_isLeaf hleaf)
  | depth _ _ hc =>
    rw [hc] at hfs
    cases hfs
  | elements _ _ _ hc =>
    rw [hc, body_limited] at hfs
    cases hfs
  | entries _ _ _ hc =>
    rw [hc, body_limited] at hfs
    cases hfs
  | fields _ hid hshape hcaptures hlimited =>
    subst hid
    rw [hlimited, body_limited] at hfs
    cases hfs
    refine Or.inl ⟨hshape, ?_, fun hmore => ?_⟩
    · exact Nat.le_trans (OrderedTable.length_ofList_le _) (length_take_le hcaptures)
    · rw [sourceFields, hshape, length_ownKeys] at hmore
      rw [hlimited, (cutMarks_limited _ _ _ _ _).1, if_pos hmore]
  | error hd hshape _ _ _ =>
    have hnested : (h.kind v).IsNested := by
      intro hleaf
      cases hshape.symm.trans hleaf
    obtain ⟨id, hid⟩ := exists_object_of_isNested hnested
    exact Or.inr ⟨hd, id, _, hid, hshape⟩

/-- An error keeps the limit exactly if it has no more fields than that. -/
theorem keepsFieldLimit_of_error (hc : CapturesAs g h limits d (.object id) n c m) {name : String}
    (hshape : (h.kind (.object id)).shape = .error name) (hd : d < limits.maxReferenceDepth)
    (hfs : c.body = .fields fs) :
    fs.map (·.1) = errorFields h id ∧ c.reason = none ∧
      (KeepsFieldLimit limits (sourceFields h (.object id)) fs c ↔
        sourceFields h (.object id) ≤ limits.maxFieldCount) := by
  obtain ⟨fs', hc', hnames⟩ := fields_of_error hc hshape hd
  subst hc'
  cases hfs
  have htotal : sourceFields h (.object id) = fs.length := by
    rw [sourceFields, hshape, ← hnames, List.length_map]
  refine ⟨hnames, rfl, fun hkeeps => htotal ▸ hkeeps.1, fun hle => ⟨htotal ▸ hle, fun hlt => ?_⟩⟩
  omega

/-- The exact condition at a node with fields. -/
theorem keepsFieldLimit_iff (hc : CapturesAs g h limits d v n c m) (hfs : c.body = .fields fs) :
    KeepsFieldLimit limits (sourceFields h v) fs c ↔
      (∀ name, (h.kind v).shape ≠ .error name) ∨ sourceFields h v ≤ limits.maxFieldCount := by
  rcases source_of_fields hc hfs with ⟨hrecord, hkeeps⟩ | ⟨hd, id, name, rfl, herror⟩
  · refine iff_of_true hkeeps (Or.inl fun name hname => ?_)
    cases hrecord.symm.trans hname
  · rw [(keepsFieldLimit_of_error hc herror hd hfs).2.2]
    exact ⟨Or.inr, fun hor => hor.resolve_left fun hne => hne name herror⟩

/-! ## Main result -/

/-- An error with a cause, the error with the most fields. -/
def errorWithCause : Heap :=
  ⟨#[{ kind := .error "E", properties := ⟨[(.string "cause", .data .null)]⟩ }], 0⟩

/-- **The limit on fields is kept but for errors.** Every node of a captured tree is the capture
of some value at its depth or stands for a getter that threw. A node with fields keeps the limit
exactly if its source is no error, or one with no more fields than the limit; all of them do
exactly if nothing is captured by parts or the limit is four at least. -/
theorem field_limit_exact (limits : CaptureLimits) :
    (∀ g h v calls d c, ((capture g h limits v).run calls).1.HasNode d c →
      c.IsAccessError ∨ ∃ x n m, CapturesAs g h limits d x n c m) ∧
    (∀ g h d x n c m fs, CapturesAs g h limits d x n c m → c.body = .fields fs →
      (KeepsFieldLimit limits (sourceFields h x) fs c ↔
        (∀ name, (h.kind x).shape ≠ .error name) ∨ sourceFields h x ≤ limits.maxFieldCount)) ∧
    ((∀ g h d x n c m fs, CapturesAs g h limits d x n c m → c.body = .fields fs →
        KeepsFieldLimit limits (sourceFields h x) fs c) ↔
      limits.maxReferenceDepth = 0 ∨ 4 ≤ limits.maxFieldCount) := by
  refine ⟨fun g h v calls d c hc => ?_, fun g h d x n c m fs hc hfs => keepsFieldLimit_iff hc hfs,
    fun hall => ?_, fun hlimits g h d x n c m fs hc hfs => ?_⟩
  · exact (isPart_of_hasNode (capturesAs_capture g h limits v calls) hc).2
  · by_contra hnot
    rw [not_or] at hnot
    have hd : 0 < limits.maxReferenceDepth := Nat.pos_of_ne_zero hnot.1
    have hc := capturesAs_capture ⟨fun _ _ _ receiver => .ok receiver⟩ errorWithCause limits
      (.object ⟨0⟩) 0
    obtain ⟨fs, hfs, -⟩ := fields_of_error hc rfl hd
    have hbody := congrArg Captured.body hfs
    have htotal : sourceFields errorWithCause (.object ⟨0⟩) ≤ limits.maxFieldCount :=
      (keepsFieldLimit_of_error hc rfl hd hbody).2.2.1 (hall _ _ _ _ _ _ _ _ hc hbody)
    exact hnot.2 htotal
  · rcases source_of_fields hc hfs with ⟨-, hkeeps⟩ | ⟨hd, id, name, rfl, herror⟩
    · exact hkeeps
    · refine (keepsFieldLimit_of_error hc herror hd hfs).2.2.2 ?_
      have hle := length_errorFields_le h id
      rw [sourceFields, herror]
      show (errorFields h id).length ≤ limits.maxFieldCount
      omega

/-- An error under a limit of two fields: it has three, and no mark. -/
theorem fields_of_error_beyond_limit :
    let g : Getters := ⟨fun _ _ _ receiver => .ok receiver⟩
    let h : Heap := ⟨#[{ kind := .error "E", properties :=
      ⟨[(.string "message", .data (.string "m")), (.string "stack", .data (.string "E: m"))]⟩ }], 0⟩
    let limits : CaptureLimits := { maxFieldCount := 2 }
    let c := ((capture g h limits (.object ⟨0⟩)).run 0).1
    let fs := [("message", Captured.primitive "string" "m"), ("name", .primitive "string" "E"),
      ("stack", .primitive "string" "E: m")]
    c.body = .fields fs ∧ c.reason = none ∧
      ¬ KeepsFieldLimit limits (sourceFields h (.object ⟨0⟩)) fs c := by
  intro g h limits c fs
  refine ⟨rfl, rfl, fun hkeeps => ?_⟩
  exact absurd hkeeps.1 (by decide)

end Capture

end ProbeEngine
