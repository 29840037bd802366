import ProbeEngine.Json.Record
import ProbeEngine.Proofs.Json.Canonical
import ProbeEngine.Proofs.Results

/-!
# Reading records

What the readers read comes from the value that they are given, and what they have read is
read back. A record of which some fields have been read is described by the names of these
fields; then one lemma about a step gives the record that the whole object stands for, in
whichever order its fields stand (`RecordShape.decode_arrange`). What holds of a record without
fields, and is kept whenever a field is read, holds of every record that is read, from an object
or from an array (`RecordShape.decode_induction`).
-/

namespace ProbeEngine.Json

variable {α : Type}

/-! ## Readers -/

theorem readNatural_natCast {type : String} {greatest n : Nat} (hn : n ≤ greatest) :
    readNatural type greatest (.integer n) = .ok n :=
  if_pos ⟨Int.natCast_nonneg n, Int.ofNat_le.2 hn⟩

theorem le_of_readNatural {type : String} {greatest n : Nat} {j : Json}
    (h : readNatural type greatest j = .ok n) : n ≤ greatest := by
  cases j with
  | integer m =>
    rw [readNatural] at h
    split at h
    · cases h
      omega
    · cases h
  | _ => cases h

theorem readNumber_eq_ok_iff {j : Json} {x : Float} :
    readNumber j = .ok x ↔ j.number? = some x := by
  rw [readNumber]
  cases j.number? with
  | none => exact ⟨nofun, nofun⟩
  | some y => rw [Except.ok.injEq, Option.some.injEq]

theorem readOptional_of_ne_null {read : Decoder α} {j : Json} {a : α} (hj : j ≠ .null)
    (h : read j = .ok a) : readOptional read j = .ok (some a) := by
  rw [readOptional, h]
  · rfl
  · exact hj

theorem of_readOptional {read : Decoder α} {j : Json} {o : Option α}
    (h : readOptional read j = .ok o) : ∀ a ∈ o, read j = .ok a := by
  rintro a rfl
  rw [readOptional.eq_def] at h
  split at h
  · cases h
  · obtain ⟨b, hb, heq⟩ := map_eq_ok_iff.1 h
    rw [hb, Option.some.inj heq]

theorem readList_map {read : Decoder α} {write : α → Json} {as : List α}
    (h : ∀ a ∈ as, read (write a) = .ok a) : readList read (.array (as.map write)) = .ok as := by
  rw [readList, mapM_eq_ok_iff, List.forall₂_map_left_iff, List.forall₂_same]
  exact h

theorem of_readList {read : Decoder α} {j : Json} {as : List α} (h : readList read j = .ok as) :
    ∀ a ∈ as, ∃ x ∈ j.children, read x = .ok a := by
  cases j with
  | array items => exact fun a ha => exists_of_mem_mapM h ha
  | _ => cases h

/-! ## Records -/

namespace RecordShape

variable {s : RecordShape} {start a : α} {read : FieldReader α}

theorem readOptional_decode {j : Json} (h : s.decode start read j = .ok a) :
    readOptional (s.decode start read) j = .ok (some a) := by
  refine readOptional_of_ne_null ?_ h
  rintro rfl
  cases h

theorem readItems_induction {P : α → Prop} {all : Nat} {names : List String} {js : List Json}
    (hread : ∀ b name x c, x ∈ js → P b → read b name x = .ok c → P c) (hstart : P start)
    (h : s.readItems read all names js start = .ok a) : P a := by
  induction js generalizing names start with
  | nil =>
    rw [readItems] at h
    split at h <;> cases h
    exact hstart
  | cons j js ih =>
    cases names with
    | nil => cases h
    | cons name names =>
      obtain ⟨b, hb, hrest⟩ := bind_eq_ok_iff.1 h
      exact ih (fun b name x c hx => hread b name x c (List.mem_cons_of_mem j hx))
        (hread _ name j b List.mem_cons_self hstart hb) hrest

theorem readFields_induction {P : α → Prop} {seen : List String} {fs : List (String × Json)}
    (hread : ∀ b name x c, x ∈ (object fs).children → P b → read b name x = .ok c → P c)
    (hstart : P start) (h : s.readFields read seen fs start = .ok a) : P a := by
  induction fs generalizing seen start with
  | nil =>
    rw [readFields] at h
    split at h <;> cases h
    exact hstart
  | cons f fs ih =>
    have hrest : ∀ b name x c, x ∈ (object fs).children → P b → read b name x = .ok c → P c :=
      fun b name x c hx => hread b name x c (List.mem_cons_of_mem f.2 hx)
    rw [readFields] at h
    split at h
    · exact ih hrest hstart h
    · split at h
      · cases h
      · obtain ⟨b, hb, h⟩ := bind_eq_ok_iff.1 h
        exact ih hrest (hread _ f.1 f.2 b List.mem_cons_self hstart hb) h

/-- **What holds at the start, and is kept by each field that is read, holds of the record.** -/
theorem decode_induction {P : α → Prop} {j : Json}
    (hread : ∀ b name x c, x ∈ j.children → P b → read b name x = .ok c → P c) (hstart : P start)
    (h : s.decode start read j = .ok a) : P a := by
  cases j with
  | object fs => exact readFields_induction hread hstart h
  | array items => exact readItems_induction hread hstart h
  | _ => cases h

/-- Fields are read one after the other, if all are known, no two have the same name, and none is
missing. -/
theorem readFields_eq_ok {known : List String → α} {seen : List String}
    {fs : List (String × Json)} (hknown : ∀ f ∈ fs, f.1 ∈ s.fields)
    (hdistinct : (fs.map (·.1)).Nodup) (hnew : ∀ f ∈ fs, f.1 ∉ seen)
    (hrequired : ∀ name ∈ s.required, name ∈ seen ∨ name ∈ fs.map (·.1))
    (hread : ∀ f ∈ fs, ∀ seen, read (known seen) f.1 f.2 = .ok (known (f.1 :: seen))) :
    s.readFields read seen fs (known seen) = .ok (known ((fs.map (·.1)).reverse ++ seen)) := by
  induction fs generalizing seen with
  | nil =>
    have hmissing : (s.required.find? fun name => !seen.contains name) = none := by
      refine List.find?_eq_none.2 fun name hname => ?_
      have hmem : name ∈ seen := (hrequired name hname).resolve_right List.not_mem_nil
      rw [List.contains_eq_mem, decide_eq_true hmem]
      exact Bool.noConfusion
    rw [readFields, hmissing]
    rfl
  | cons f fs ih =>
    obtain ⟨hf, hdistinct⟩ := List.nodup_cons.1 hdistinct
    have hseen : f.1 ∉ seen := hnew f List.mem_cons_self
    rw [readFields, if_neg (by simpa using hknown f List.mem_cons_self), if_neg (by simpa),
      hread f List.mem_cons_self seen]
    show s.readFields read (f.1 :: seen) fs (known (f.1 :: seen)) = _
    rw [ih (fun g hg => hknown g (List.mem_cons_of_mem f hg)) hdistinct ?new ?required
      fun g hg => hread g (List.mem_cons_of_mem f hg)]
    · rw [List.map_cons, List.reverse_cons, List.append_assoc]
      rfl
    case new =>
      intro g hg hmem
      rcases List.mem_cons.1 hmem with heq | hmem
      · exact hf (List.mem_map.2 ⟨g, hg, heq⟩)
      · exact hnew g (List.mem_cons_of_mem f hg) hmem
    case required =>
      intro name hname
      rcases hrequired name hname with hmem | hmem
      · exact .inl (List.mem_cons_of_mem _ hmem)
      · rcases List.mem_cons.1 hmem with rfl | hmem
        · exact .inl List.mem_cons_self
        · exact .inr hmem

/-- **An object is read as the record that its fields make up, in whichever order it has them.**
Here `known names` is the record of which the fields with these names have been read. -/
theorem decode_arrange {arrange : Json → Json} (harrange : Arranges arrange)
    (known : List String → α) {fs : List (String × Json)} (hnames : (fs.map (·.1)).Sublist s.fields)
    (hfields : s.fields.Nodup) (hrequired : ∀ name ∈ s.required, name ∈ fs.map (·.1))
    (hread : ∀ f ∈ fs, ∀ seen,
      read (known seen) f.1 (arrange f.2) = .ok (known (f.1 :: seen)))
    (hall : ∀ seen, (∀ f ∈ fs, f.1 ∈ seen) → known seen = a) :
    s.decode (known []) read (arrange (.object fs)) = .ok a := by
  have hdistinct := hfields.sublist hnames
  obtain ⟨gs, hgs, hperm⟩ := harrange.object hdistinct
  have hsame : (gs.map (·.1)).Perm (fs.map (·.1)) := by
    have hmap := hperm.map (·.1)
    rwa [List.map_map] at hmap
  have hgiven : ∀ g ∈ gs, ∃ f ∈ fs, (f.1, arrange f.2) = g := fun g hg =>
    List.mem_map.1 (hperm.subset hg)
  have hrun : s.readFields read [] gs (known []) = .ok (known ((gs.map (·.1)).reverse ++ [])) := by
    refine readFields_eq_ok ?known (hsame.symm.nodup hdistinct) (fun _ _ => List.not_mem_nil)
      (fun name hname => .inr (hsame.symm.subset (hrequired name hname))) ?read
    case known => exact fun g hg => hnames.subset (hsame.subset (List.mem_map_of_mem hg))
    case read =>
      intro g hg
      obtain ⟨f, hf, rfl⟩ := hgiven g hg
      exact hread f hf
  rw [hgs, decode, hrun]
  refine congrArg Except.ok (hall _ fun f hf => ?_)
  rw [List.append_nil, List.mem_reverse]
  exact hsame.symm.subset (List.mem_map_of_mem hf)

end RecordShape

/-! ## Records of which some fields are known -/

/-- A field of a record: what it is once it has been read, and what it is before. -/
def pick (seen : List String) (name : String) (value start : α) : α :=
  if name ∈ seen then value else start

section

variable {seen : List String} {name other : String} {value start : α}

@[simp] theorem pick_cons : pick (other :: seen) name value start =
    if name = other then value else pick seen name value start := by
  by_cases h : name = other <;> simp [pick, h]

theorem pick_of_mem (h : name ∈ seen) : pick seen name value start = value := if_pos h

end

/-! ## Optional fields -/

variable {β : Type} {name : String} {write : β → Json} {o : Option β}

theorem exists_of_mem_optionalField {f : String × Json}
    (hf : f ∈ optionalField name (o.map write)) : ∃ b, o = some b ∧ f = (name, write b) := by
  cases o with
  | none => cases hf
  | some b => exact ⟨b, rfl, List.mem_singleton.1 hf⟩

theorem holdsNumbers_optionalField (h : ∀ b ∈ o, (write b).HoldsNumbers) :
    ∀ f ∈ optionalField name (o.map write), f.2.HoldsNumbers := by
  intro f hf
  obtain ⟨b, hb, rfl⟩ := exists_of_mem_optionalField hf
  exact h b hb

theorem names_optionalField_sublist (name : String) (o : Option Json) :
    ((optionalField name o).map (·.1)).Sublist [name] := by
  cases o with
  | none => exact List.nil_sublist _
  | some j => exact .refl _

/-- An optional field that has been left out is nothing, as it is before it is read. -/
theorem pick_optional {seen : List String}
    (h : ∀ f ∈ optionalField name (o.map write), f.1 ∈ seen) : pick seen name o none = o := by
  cases o with
  | none => exact ite_self none
  | some b => exact pick_of_mem (h (name, write b) List.mem_cons_self)

end ProbeEngine.Json
