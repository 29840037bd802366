import ProbeEngine.Proofs.Capture.Tree
import ProbeEngine.Proofs.Json.Compact

/-!
# What the wire form of a captured value says

The JSON form of a captured value leaves out what does not apply, and the sort of its body is
not written: it shows by the name of the field that holds it. No two bodies share a name, and
none of them is the name of a mark, so the fields of the JSON form give the parts of the
value back (`eq_of_toJson_eq`). The words for a reason give the reason back
(`NotCaptured.text_injective`), for only those of a getter that threw begin with an `e`. As
the JSON forms hold no doubles, their compact texts say as much (`compact_toJson_injective`).
-/

namespace ProbeEngine

/-! ## Reasons -/

namespace NotCaptured

/-- The words for what a getter threw begin like those for no other reason. -/
theorem head?_text_iff (r : NotCaptured) :
    r.text.toList.head? = some 'e' ↔ ∃ text, r = .accessError text := by
  cases r with
  | accessError text =>
    refine iff_of_true ?_ ⟨text, rfl⟩
    show ("error reading value: " ++ text).toList.head? = some 'e'
    rw [String.toList_append]
    rfl
  | _ => exact iff_of_false (by decide) (fun ⟨_, h⟩ => nomatch h)

theorem text_injective : Function.Injective text := by
  intro r r' h
  by_cases hr : ∃ words, r = .accessError words
  · have hr' := (head?_text_iff r').1 (h ▸ (head?_text_iff r).2 hr)
    obtain ⟨words, rfl⟩ := hr
    obtain ⟨words', rfl⟩ := hr'
    have happend : "error reading value: " ++ words = "error reading value: " ++ words' := h
    rw [String.append_right_inj] at happend
    rw [happend]
  · have hr' : ¬ ∃ words, r' = .accessError words :=
      fun hr' => hr ((head?_text_iff r).1 (h ▸ (head?_text_iff r').2 hr'))
    cases r with
    | accessError words => exact absurd ⟨words, rfl⟩ hr
    | _ =>
      cases r' with
      | accessError words => exact absurd ⟨words, rfl⟩ hr'
      | _ => first | rfl | exact absurd h (by decide)

end NotCaptured

namespace Captured

open Json (IsExact)

/-! ## Marks -/

/-- The names of the fields of marks. -/
def markNames : List String := ["truncated", "size", "notCapturedReason"]

variable {truncated truncated' : Bool} {size size' : Option Nat}
  {reason reason' : Option NotCaptured}

theorem lookup_markFields (truncated : Bool) (size : Option Nat) (reason : Option NotCaptured) :
    (markFields truncated size reason).lookup "truncated" =
        (if truncated then some (.bool true) else none) ∧
      (markFields truncated size reason).lookup "size" = size.map (fun n => .integer n) ∧
      (markFields truncated size reason).lookup "notCapturedReason" =
        reason.map (fun r => .string r.text) := by
  cases truncated <;> cases size <;> cases reason <;> exact ⟨rfl, rfl, rfl⟩

theorem markFields_inj
    (h : markFields truncated size reason = markFields truncated' size' reason') :
    truncated = truncated' ∧ size = size' ∧ reason = reason' := by
  obtain ⟨ht, hs, hr⟩ := lookup_markFields truncated size reason
  obtain ⟨ht', hs', hr'⟩ := lookup_markFields truncated' size' reason'
  rw [h] at ht hs hr
  refine ⟨?_, ?_, ?_⟩
  · have heq := ht.symm.trans ht'
    cases truncated <;> cases truncated' <;> first | rfl | cases heq
  · refine Option.map_injective (fun m n hmn => ?_) (hs.symm.trans hs')
    exact Int.ofNat_inj.1 (Json.integer.inj hmn)
  · refine Option.map_injective (fun r r' hrr' => ?_) (hr.symm.trans hr')
    exact NotCaptured.text_injective (Json.string.inj hrr')

theorem mem_markNames {f : String × Json} (hf : f ∈ markFields truncated size reason) :
    f.1 ∈ markNames ∧ IsExact f.2 := by
  simp only [markFields, List.mem_append] at hf
  rcases hf with (hf | hf) | hf
  · cases truncated with
    | false => cases hf
    | true =>
      cases List.mem_singleton.1 hf
      exact ⟨by simp [markNames], .bool true⟩
  · cases size with
    | none => cases hf
    | some n =>
      cases List.mem_singleton.1 hf
      exact ⟨by simp [markNames], .integer n⟩
  · cases reason with
    | none => cases hf
    | some r =>
      cases List.mem_singleton.1 hf
      exact ⟨by simp [markNames], .string r.text⟩

/-! ## Bodies -/

theorem elementsToJson_eq (xs : List Captured) : elementsToJson xs = xs.map toJson := by
  induction xs with
  | nil => rfl
  | cons x xs ih => rw [elementsToJson, ih, List.map_cons]

theorem fieldsToJson_eq (fs : List (String × Captured)) :
    fieldsToJson fs = fs.map fun f => (f.1, f.2.toJson) := by
  induction fs with
  | nil => rfl
  | cons f fs ih => rw [fieldsToJson, ih, List.map_cons]

theorem entriesToJson_eq (es : List (Captured × Captured)) :
    entriesToJson es = es.map fun e => .array [e.1.toJson, e.2.toJson] := by
  induction es with
  | nil => rfl
  | cons e es ih => rw [entriesToJson, ih, List.map_cons]

theorem not_mem_markNames {body : CapturedBody Captured} {f : String × Json}
    (hf : f ∈ bodyFields body) : f.1 ∉ markNames := by
  cases body with
  | empty => cases hf
  | _ =>
    cases List.mem_singleton.1 hf
    simp [markNames]

/-- The field of a body holds no double if the JSON forms of its parts hold none. -/
theorem isExact_bodyFields {body : CapturedBody Captured}
    (hparts : ∀ x ∈ body.parts, IsExact x.toJson) {f : String × Json} (hf : f ∈ bodyFields body) :
    IsExact f.2 := by
  cases body with
  | empty => cases hf
  | value text =>
    cases List.mem_singleton.1 hf
    exact .string text
  | null =>
    cases List.mem_singleton.1 hf
    exact .bool true
  | fields fs =>
    cases List.mem_singleton.1 hf
    refine .object fun j hj => ?_
    rw [fieldsToJson_eq] at hj
    obtain ⟨x, hx, rfl⟩ := List.mem_map.1 hj
    exact hparts x.2 (List.mem_map_of_mem hx)
  | elements xs =>
    cases List.mem_singleton.1 hf
    refine .array fun j hj => ?_
    rw [elementsToJson_eq] at hj
    obtain ⟨x, hx, rfl⟩ := List.mem_map.1 hj
    exact hparts x hx
  | entries es =>
    cases List.mem_singleton.1 hf
    refine .array fun j hj => ?_
    rw [entriesToJson_eq] at hj
    obtain ⟨e, he, rfl⟩ := List.mem_map.1 hj
    have hpair : ∀ x ∈ [e.1, e.2], IsExact x.toJson :=
      fun x hx => hparts x (List.mem_flatMap.2 ⟨e, he, hx⟩)
    refine .array fun k hk => ?_
    rcases List.mem_pair.1 hk with rfl | rfl
    · exact hpair e.1 (.head _)
    · exact hpair e.2 (.tail _ (.head _))

theorem eq_of_map_eq {α β : Type} {f : α → β} {as bs : List α}
    (hinj : ∀ a ∈ as, ∀ b, f a = f b → a = b) (h : as.map f = bs.map f) : as = bs := by
  induction as generalizing bs with
  | nil => exact (List.map_eq_nil_iff.1 h.symm).symm
  | cons a as ih =>
    cases bs with
    | nil => cases h
    | cons b bs =>
      rw [List.forall_mem_cons] at hinj
      obtain ⟨hhead, htail⟩ := List.cons.inj h
      rw [hinj.1 b hhead, ih hinj.2 htail]

/-- The field of a body gives it back if the JSON forms of its parts give them back. -/
theorem bodyFields_inj {body body' : CapturedBody Captured}
    (hparts : ∀ x ∈ body.parts, ∀ y : Captured, x.toJson = y.toJson → x = y)
    (h : bodyFields body = bodyFields body') : body = body' := by
  -- bodies of different sorts have different names, or one of them has no field at all
  cases body with
  | empty =>
    cases body' with
    | empty => rfl
    | _ => simp [bodyFields] at h
  | null =>
    cases body' with
    | null => rfl
    | _ => simp [bodyFields] at h
  | value text =>
    cases body' with
    | value text' =>
      simp only [bodyFields, List.cons.injEq, Prod.mk.injEq, Json.string.injEq, and_true,
        true_and] at h
      rw [h]
    | _ => simp [bodyFields] at h
  | fields fs =>
    cases body' with
    | fields fs' =>
      simp only [bodyFields, List.cons.injEq, Prod.mk.injEq, Json.object.injEq, and_true,
        true_and, fieldsToJson_eq] at h
      rw [eq_of_map_eq (fun f hf f' heq => ?_) h]
      obtain ⟨hname, hvalue⟩ := Prod.mk.inj heq
      exact Prod.ext hname (hparts f.2 (List.mem_map_of_mem hf) f'.2 hvalue)
    | _ => simp [bodyFields] at h
  | elements xs =>
    cases body' with
    | elements xs' =>
      simp only [bodyFields, List.cons.injEq, Prod.mk.injEq, Json.array.injEq, and_true,
        true_and, elementsToJson_eq] at h
      exact congrArg CapturedBody.elements (eq_of_map_eq hparts h)
    | _ => simp [bodyFields] at h
  | entries es =>
    cases body' with
    | entries es' =>
      simp only [bodyFields, List.cons.injEq, Prod.mk.injEq, Json.array.injEq, and_true,
        true_and, entriesToJson_eq] at h
      rw [eq_of_map_eq (fun e he e' heq => ?_) h]
      have hpair : ∀ x ∈ [e.1, e.2], ∀ y : Captured, x.toJson = y.toJson → x = y :=
        fun x hx => hparts x (List.mem_flatMap.2 ⟨e, he, hx⟩)
      obtain ⟨hkey, hrest⟩ := List.cons.inj (Json.array.inj heq)
      exact Prod.ext (hpair e.1 (.head _) e'.1 hkey)
        (hpair e.2 (.tail _ (.head _)) e'.2 (List.cons.inj hrest).1)
    | _ => simp [bodyFields] at h

/-! ## Values -/

theorem toJson_eq (c : Captured) : c.toJson = .object
    (("type", .string c.type) :: bodyFields c.body ++ markFields c.truncated c.size c.reason) := by
  obtain ⟨type, body, truncated, size, reason⟩ := c
  rw [toJson]
  rfl

/-- The JSON form of a captured value holds no double. -/
theorem isExact_toJson (c : Captured) : IsExact c.toJson := by
  induction c using induction_children with
  | h c ih =>
    rw [toJson_eq]
    refine .object fun f hf => ?_
    rcases List.mem_append.1 hf with hf | hf
    · rcases List.mem_cons.1 hf with rfl | hf
      · exact .string _
      · exact isExact_bodyFields ih hf
    · exact (mem_markNames hf).2

/-- Two lists, and two more of which no member is like a member of those, are known from the
lists that they make together. -/
theorem append_inj_of_separated {α : Type} {p : α → Prop} [DecidablePred p]
    {as as' bs bs' : List α} (has : ∀ a ∈ as, ¬ p a) (has' : ∀ a ∈ as', ¬ p a)
    (hbs : ∀ b ∈ bs, p b) (hbs' : ∀ b ∈ bs', p b) (h : as ++ bs = as' ++ bs') :
    as = as' ∧ bs = bs' := by
  have hfilter : ∀ {as bs : List α}, (∀ a ∈ as, ¬ p a) → (∀ b ∈ bs, p b) →
      (as ++ bs).filter (fun x => p x) = bs := by
    intro as bs has hbs
    have hnil : as.filter (fun x => p x) = [] :=
      List.filter_eq_nil_iff.2 fun a ha => by simpa using has a ha
    have hself : bs.filter (fun x => p x) = bs :=
      List.filter_eq_self.2 fun b hb => by simpa using hbs b hb
    rw [List.filter_append, hnil, hself, List.nil_append]
  have hright : bs = bs' := by
    rw [← hfilter has hbs, h, hfilter has' hbs']
  subst hright
  exact ⟨List.append_cancel_right h, rfl⟩

/-- The JSON form of a captured value gives it back. -/
theorem eq_of_toJson_eq {c c' : Captured} (h : c.toJson = c'.toJson) : c = c' := by
  induction c using induction_children generalizing c' with
  | h c ih =>
    rw [toJson_eq, toJson_eq] at h
    obtain ⟨htype, hrest⟩ := List.cons.inj (Json.object.inj h)
    obtain ⟨hbody, hmarks⟩ := append_inj_of_separated
      (p := fun f : String × Json => f.1 ∈ markNames) (fun _ => not_mem_markNames)
      (fun _ => not_mem_markNames) (fun _ hf => (mem_markNames hf).1)
      (fun _ hf => (mem_markNames hf).1) hrest
    have hbody := bodyFields_inj (fun x hx y => ih x hx) hbody
    obtain ⟨htruncated, hsize, hreason⟩ := markFields_inj hmarks
    obtain ⟨type, body, truncated, size, reason⟩ := c
    obtain ⟨type', body', truncated', size', reason'⟩ := c'
    obtain rfl : type = type' := Json.string.inj (Prod.mk.inj htype).2
    obtain rfl : body = body' := hbody
    obtain rfl : truncated = truncated' := htruncated
    obtain rfl : size = size' := hsize
    obtain rfl : reason = reason' := hreason
    rfl

/-! ## Main result -/

/-- **No two captured values are written alike.** -/
theorem compact_toJson_injective :
    Function.Injective fun c : Captured => Json.compact c.toJson := by
  intro c c' h
  exact eq_of_toJson_eq ((Json.compact_inj (isExact_toJson c) (isExact_toJson c')).1 h)

end Captured

end ProbeEngine
