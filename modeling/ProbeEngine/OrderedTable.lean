/-!
# Ordered tables

A table from keys to values that remembers the order in which its keys were
first written. Writing a key again replaces the value and keeps the place, so
the keys of a table that was built by writing are distinct (`nodup_keys_put`)
and the last write of a key is what a look-up finds (`get?_put_self`,
`get?_put_of_ne`). A key that is taken out is no longer found, and no other key
is lost with it (`get?_erase_self`, `get?_erase_of_ne`).
-/

namespace ProbeEngine

/-- A table as the list of its entries, in the order of first writing. -/
structure OrderedTable (κ : Type) (ν : Type) where
  entries : List (κ × ν) := []

namespace OrderedTable

variable {κ ν : Type} [DecidableEq κ]

/-- The table without entries. -/
def empty : OrderedTable κ ν := ⟨[]⟩

instance : Inhabited (OrderedTable κ ν) := ⟨empty⟩

/-- The keys, in the order of first writing. -/
def keys (t : OrderedTable κ ν) : List κ := t.entries.map (·.1)

/-- The values, in the order in which their keys were first written. -/
def values (t : OrderedTable κ ν) : List ν := t.entries.map (·.2)

/-- The number of entries. -/
def size (t : OrderedTable κ ν) : Nat := t.entries.length

/-- Whether the table has no entry. -/
def isEmpty (t : OrderedTable κ ν) : Bool := t.entries.isEmpty

/-- The value of a key in a list of entries. -/
def lookup (k : κ) : List (κ × ν) → Option ν
  | [] => none
  | e :: es => if e.1 = k then some e.2 else lookup k es

/-- The value of a key. -/
def get? (t : OrderedTable κ ν) (k : κ) : Option ν := lookup k t.entries

/-- Whether a key is written. -/
def contains (t : OrderedTable κ ν) (k : κ) : Bool := (t.get? k).isSome

/-- A list of entries after writing a key: at its place, or else at the end. -/
def putEntry (k : κ) (v : ν) : List (κ × ν) → List (κ × ν)
  | [] => [(k, v)]
  | e :: es => if e.1 = k then (k, v) :: es else e :: putEntry k v es

/-- The table after writing a key. -/
def put (t : OrderedTable κ ν) (k : κ) (v : ν) : OrderedTable κ ν := ⟨putEntry k v t.entries⟩

/-- The table after writing each of some entries in order. -/
def putAll (t : OrderedTable κ ν) (es : List (κ × ν)) : OrderedTable κ ν :=
  es.foldl (fun t e => t.put e.1 e.2) t

/-- The table that writing some entries in order builds. -/
def ofList (es : List (κ × ν)) : OrderedTable κ ν := empty.putAll es

/-- The table without a key. -/
def erase (t : OrderedTable κ ν) (k : κ) : OrderedTable κ ν :=
  ⟨t.entries.filter fun e => e.1 ≠ k⟩

/-! ## Look-up after writing -/

theorem lookup_putEntry (k k' : κ) (v : ν) (es : List (κ × ν)) :
    lookup k' (putEntry k v es) = if k = k' then some v else lookup k' es := by
  induction es with
  | nil => simp [putEntry, lookup]
  | cons e es ih =>
    by_cases he : e.1 = k
    · rw [putEntry, if_pos he, lookup, lookup, he]
      by_cases hk : k = k' <;> simp [hk]
    · rw [putEntry, if_neg he, lookup, lookup, ih]
      by_cases hk : e.1 = k'
      · have hne : ¬ k = k' := fun h => he (hk.trans h.symm)
        rw [if_pos hk, if_pos hk, if_neg hne]
      · rw [if_neg hk, if_neg hk]

theorem get?_put_self (t : OrderedTable κ ν) (k : κ) (v : ν) : (t.put k v).get? k = some v := by
  simp [get?, put, lookup_putEntry]

theorem get?_put_of_ne (t : OrderedTable κ ν) {k k' : κ} (v : ν) (h : k ≠ k') :
    (t.put k v).get? k' = t.get? k' := by
  simp [get?, put, lookup_putEntry, h]

theorem get?_empty (k : κ) : (empty : OrderedTable κ ν).get? k = none := rfl

theorem lookup_filter_ne (k k' : κ) (es : List (κ × ν)) :
    lookup k' (es.filter fun e => e.1 ≠ k) = if k = k' then none else lookup k' es := by
  induction es with
  | nil => simp [lookup]
  | cons e es ih =>
    by_cases he : e.1 = k
    · rw [List.filter_cons_of_neg (by simpa using he), ih, lookup, he]
      by_cases hk : k = k' <;> simp [hk]
    · rw [List.filter_cons_of_pos (by simpa using he), lookup, lookup, ih]
      by_cases hk : e.1 = k'
      · have hne : ¬ k = k' := fun h => he (hk.trans h.symm)
        rw [if_pos hk, if_pos hk, if_neg hne]
      · rw [if_neg hk, if_neg hk]

/-- A key that was taken out is no longer found. -/
theorem get?_erase_self (t : OrderedTable κ ν) (k : κ) : (t.erase k).get? k = none := by
  simp only [get?, erase, lookup_filter_ne, if_true]

theorem get?_erase_of_ne (t : OrderedTable κ ν) {k k' : κ} (h : k ≠ k') :
    (t.erase k).get? k' = t.get? k' := by
  simp only [get?, erase, lookup_filter_ne, if_neg h]

/-! ## Entries after writing -/

theorem putAll_append (t : OrderedTable κ ν) (as bs : List (κ × ν)) :
    t.putAll (as ++ bs) = (t.putAll as).putAll bs :=
  List.foldl_append

theorem mem_putEntry {k : κ} {v : ν} {es : List (κ × ν)} {e : κ × ν} (h : e ∈ putEntry k v es) :
    e = (k, v) ∨ e ∈ es := by
  induction es with
  | nil => exact Or.inl (List.mem_singleton.1 h)
  | cons x es ih =>
    rw [putEntry] at h
    split at h
    · rcases List.mem_cons.1 h with h | h
      · exact Or.inl h
      · exact Or.inr (List.mem_cons_of_mem _ h)
    · rcases List.mem_cons.1 h with h | h
      · exact Or.inr (h ▸ List.mem_cons_self)
      · exact (ih h).imp_right (List.mem_cons_of_mem _)

theorem mem_entries_put {t : OrderedTable κ ν} {k : κ} {v : ν} {e : κ × ν}
    (h : e ∈ (t.put k v).entries) : e = (k, v) ∨ e ∈ t.entries :=
  mem_putEntry h

theorem mem_entries_erase {t : OrderedTable κ ν} {k : κ} {e : κ × ν}
    (h : e ∈ (t.erase k).entries) : e ∈ t.entries :=
  (List.mem_filter.1 h).1

/-! ## Keys after writing -/

theorem map_fst_putEntry (k : κ) (v : ν) (es : List (κ × ν)) :
    (putEntry k v es).map (·.1) =
      if k ∈ es.map (·.1) then es.map (·.1) else es.map (·.1) ++ [k] := by
  induction es with
  | nil => simp [putEntry]
  | cons e es ih =>
    by_cases he : e.1 = k
    · simp [putEntry, he]
    · have : ¬ k = e.1 := fun h => he h.symm
      by_cases hk : k ∈ es.map (·.1)
      · simp only [putEntry, he, if_false, List.map_cons, ih, hk, if_true, List.mem_cons, this,
          false_or]
      · simp only [putEntry, he, if_false, List.map_cons, ih, hk, if_false, List.mem_cons, this,
          false_or, List.cons_append]

/-- Writing a known key keeps the keys, writing a new one adds it at the end. -/
theorem keys_put (t : OrderedTable κ ν) (k : κ) (v : ν) :
    (t.put k v).keys = if k ∈ t.keys then t.keys else t.keys ++ [k] :=
  map_fst_putEntry k v t.entries

theorem nodup_keys_put (t : OrderedTable κ ν) (k : κ) (v : ν) (h : t.keys.Nodup) :
    (t.put k v).keys.Nodup := by
  rw [keys_put]
  split
  · exact h
  · rename_i hk
    rw [List.nodup_append]
    refine ⟨h, by simp, ?_⟩
    intro a ha b hb hab
    rw [List.mem_singleton] at hb
    exact hk (by rw [← hb, ← hab]; exact ha)

theorem nodup_keys_putAll (t : OrderedTable κ ν) (es : List (κ × ν)) (h : t.keys.Nodup) :
    (t.putAll es).keys.Nodup := by
  induction es generalizing t with
  | nil => exact h
  | cons e es ih => exact ih (t.put e.1 e.2) (nodup_keys_put t e.1 e.2 h)

theorem nodup_keys_ofList (es : List (κ × ν)) : (ofList es).keys.Nodup :=
  nodup_keys_putAll empty es List.nodup_nil

end OrderedTable

end ProbeEngine
