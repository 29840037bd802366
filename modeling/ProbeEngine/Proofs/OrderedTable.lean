import Mathlib.Data.List.Induction
import Mathlib.Data.List.Nodup
import ProbeEngine.OrderedTable

/-!
# Tables built from lists

A table that is built by writing the entries of a list has each key of the list once,
in the order of the first entries with them (`keys_ofList`), and for it the value of
the last such entry (`get?_ofList`). It has all the entries of the list exactly if
their keys are distinct (`length_ofList_eq_iff`).
-/

namespace ProbeEngine.OrderedTable

variable {κ ν : Type} [DecidableEq κ]

theorem ofList_concat (es : List (κ × ν)) (e : κ × ν) :
    ofList (es ++ [e]) = (ofList es).put e.1 e.2 :=
  putAll_append empty es [e]

/-- The keys of a list in the order in which they first occur. -/
theorem keys_ofList (es : List (κ × ν)) : (ofList es).keys = (es.map (·.1)).eraseDups := by
  induction es using List.reverseRecOn with
  | nil => rfl
  | append_singleton es e ih =>
    rw [ofList_concat, keys_put, ih, List.map_append, List.map_singleton, List.eraseDups_append]
    generalize es.map (·.1) = ks
    by_cases he : e.1 ∈ ks
    · rw [if_pos (List.mem_eraseDups.2 he)]
      simp [List.removeAll, he]
    · rw [if_neg fun h => he (List.mem_eraseDups.1 h)]
      simp [List.removeAll, List.eraseDups_cons, he]

/-- The last entry of a key that is written is the one that is found. -/
theorem get?_putAll (t : OrderedTable κ ν) (es : List (κ × ν)) (k : κ) :
    (t.putAll es).get? k = (lookup k es.reverse).or (t.get? k) := by
  induction es using List.reverseRecOn with
  | nil => rfl
  | append_singleton es e ih =>
    have hput : t.putAll (es ++ [e]) = (t.putAll es).put e.1 e.2 := putAll_append t es [e]
    rw [hput, List.reverse_append, List.reverse_singleton, List.singleton_append, lookup]
    by_cases he : e.1 = k
    · rw [if_pos he, ← he, get?_put_self, Option.some_or]
    · rw [if_neg he, get?_put_of_ne _ _ he, ih]

theorem get?_ofList (es : List (κ × ν)) (k : κ) : (ofList es).get? k = lookup k es.reverse := by
  rw [ofList, get?_putAll, get?_empty, Option.or_none]

theorem length_put (t : OrderedTable κ ν) (k : κ) (v : ν) :
    (t.put k v).entries.length =
      if k ∈ t.keys then t.entries.length else t.entries.length + 1 := by
  have hkeys := congrArg List.length (keys_put t k v)
  rw [keys, List.length_map] at hkeys
  rw [hkeys]
  split <;> simp [keys]

theorem length_ofList_le (es : List (κ × ν)) : (ofList es).entries.length ≤ es.length := by
  induction es using List.reverseRecOn with
  | nil => exact Nat.le_refl 0
  | append_singleton es e ih =>
    rw [ofList_concat, length_put, List.length_append, List.length_singleton]
    split <;> omega

/-- No entry is lost exactly if no key is written twice. -/
theorem length_ofList_eq_iff (es : List (κ × ν)) :
    (ofList es).entries.length = es.length ↔ (es.map (·.1)).Nodup := by
  induction es using List.reverseRecOn with
  | nil => exact iff_of_true rfl List.nodup_nil
  | append_singleton es e ih =>
    have hle := length_ofList_le es
    have hmem : e.1 ∈ (ofList es).keys ↔ e.1 ∈ es.map (·.1) := by
      rw [keys_ofList, List.mem_eraseDups]
    rw [ofList_concat, length_put, List.length_append, List.length_singleton, List.map_append,
      List.map_singleton]
    by_cases he : e.1 ∈ es.map (·.1)
    · rw [if_pos (hmem.2 he)]
      refine iff_of_false (by omega) fun hnodup => ?_
      exact (List.nodup_append.1 hnodup).2.2 _ he _ List.mem_cons_self rfl
    · rw [if_neg fun h => he (hmem.1 h), Nat.add_right_cancel_iff, ih]
      constructor
      · intro hnodup
        refine List.nodup_append.2 ⟨hnodup, List.nodup_singleton _, ?_⟩
        rintro a ha b hb rfl
        exact he (List.mem_singleton.1 hb ▸ ha)
      · exact fun hnodup => (List.nodup_append.1 hnodup).1

/-! ## Entries that are changed one by one -/

theorem lookup_map {ν' : Type} (g : κ → ν → ν') (k : κ) (es : List (κ × ν)) :
    lookup k (es.map fun e => (e.1, g e.1 e.2)) = (lookup k es).map (g k) := by
  induction es with
  | nil => rfl
  | cons e es ih =>
    rw [List.map_cons, lookup, lookup, ih]
    by_cases he : e.1 = k
    · rw [if_pos he, if_pos he, he, Option.map_some]
    · rw [if_neg he, if_neg he]

theorem map_putEntry {κ' ν' : Type} [DecidableEq κ'] {f : κ → κ'} (hf : Function.Injective f)
    (g : κ → ν → ν') (k : κ) (v : ν) (es : List (κ × ν)) :
    putEntry (f k) (g k v) (es.map fun e => (f e.1, g e.1 e.2)) =
      (putEntry k v es).map fun e => (f e.1, g e.1 e.2) := by
  induction es with
  | nil => rfl
  | cons e es ih =>
    rw [List.map_cons, putEntry, putEntry]
    by_cases he : e.1 = k
    · rw [if_pos he, if_pos (congrArg f he), List.map_cons]
    · rw [if_neg he, if_neg fun h => he (hf h), List.map_cons, ih]

/-- Renaming the keys apart, and changing the values by themselves, can be done before. -/
theorem entries_ofList_map {κ' ν' : Type} [DecidableEq κ'] {f : κ → κ'}
    (hf : Function.Injective f) (g : ν → ν') (es : List (κ × ν)) :
    (ofList (es.map fun e => (f e.1, g e.2))).entries =
      (ofList es).entries.map fun e => (f e.1, g e.2) := by
  induction es using List.reverseRecOn with
  | nil => rfl
  | append_singleton es e ih =>
    rw [List.map_append, List.map_singleton, ofList_concat, ofList_concat, put, put, ih]
    exact map_putEntry hf (fun _ => g) e.1 e.2 _

theorem get?_ofList_map {ν' : Type} (g : ν → ν') (es : List (κ × ν)) (k : κ) :
    (ofList (es.map fun e => (e.1, g e.2))).get? k = ((ofList es).get? k).map g := by
  rw [get?_ofList, get?_ofList, ← List.map_reverse]
  exact lookup_map (fun _ => g) k _

/-! ## Distinct keys -/

theorem putEntry_of_not_mem {k : κ} {es : List (κ × ν)} (hk : k ∉ es.map (·.1)) (v : ν) :
    putEntry k v es = es ++ [(k, v)] := by
  induction es with
  | nil => rfl
  | cons e es ih =>
    rw [List.map_cons, List.mem_cons, not_or] at hk
    rw [putEntry, if_neg fun h => hk.1 h.symm, ih hk.2, List.cons_append]

/-- Entries whose keys are distinct are a table as they are. -/
theorem entries_ofList_of_nodup {es : List (κ × ν)} (h : (es.map (·.1)).Nodup) :
    (ofList es).entries = es := by
  induction es using List.reverseRecOn with
  | nil => rfl
  | append_singleton es e ih =>
    rw [List.map_append, List.nodup_append] at h
    have he : e.1 ∉ es.map (·.1) := fun hmem => h.2.2 _ hmem _ List.mem_cons_self rfl
    rw [ofList_concat, put, ih h.1]
    exact putEntry_of_not_mem he e.2

/-- With distinct keys, the last entry of a key is the first. -/
theorem lookup_reverse {es : List (κ × ν)} (h : (es.map (·.1)).Nodup) (k : κ) :
    lookup k es.reverse = lookup k es := by
  rw [← get?_ofList, get?, entries_ofList_of_nodup h]

/-- Writing the entries of a table over another one: what it has is found, else what was there. -/
theorem get?_putAll_entries (t : OrderedTable κ ν) {u : OrderedTable κ ν} (h : u.keys.Nodup)
    (k : κ) : (t.putAll u.entries).get? k = (u.get? k).or (t.get? k) := by
  rw [get?_putAll, lookup_reverse h, ← get?]

theorem mem_of_mem_ofList {es : List (κ × ν)} {e : κ × ν} (he : e ∈ (ofList es).entries) :
    e ∈ es := by
  induction es using List.reverseRecOn with
  | nil => cases he
  | append_singleton es x ih =>
    rw [ofList_concat] at he
    rcases mem_entries_put he with rfl | he
    · exact List.mem_append_right _ List.mem_cons_self
    · exact List.mem_append_left _ (ih he)

/-- With distinct keys, an entry is what is found under its key. -/
theorem get?_of_mem {t : OrderedTable κ ν} (h : t.keys.Nodup) {e : κ × ν} (he : e ∈ t.entries) :
    t.get? e.1 = some e.2 := by
  obtain ⟨es⟩ := t
  rw [get?]
  simp only [keys] at h he
  induction es with
  | nil => cases he
  | cons x es ih =>
    rw [List.map_cons, List.nodup_cons] at h
    rw [lookup]
    rcases List.mem_cons.1 he with rfl | he
    · exact if_pos rfl
    · have hne : x.1 ≠ e.1 := fun heq => h.1 (heq ▸ List.mem_map_of_mem he)
      rw [if_neg hne, ih h.2 he]

theorem mem_of_get? {t : OrderedTable κ ν} {k : κ} {v : ν} (h : t.get? k = some v) :
    (k, v) ∈ t.entries := by
  obtain ⟨es⟩ := t
  rw [get?] at h
  simp only at h ⊢
  induction es with
  | nil => cases h
  | cons x es ih =>
    rw [lookup] at h
    by_cases hx : x.1 = k
    · rw [if_pos hx] at h
      cases h
      exact hx ▸ List.mem_cons_self
    · rw [if_neg hx] at h
      exact List.mem_cons_of_mem _ (ih h)

end ProbeEngine.OrderedTable
