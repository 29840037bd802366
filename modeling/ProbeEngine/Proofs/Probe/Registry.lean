import ProbeEngine.Probe.Registry

/-!
# What a registry holds

A probe is made of what its definition compiles to (`Probe.of_compile`). The probe
that is found under an id after each operation on a registry:

* `get?_register` — a definition that compiles is found under its own id, and one
  that does not changes nothing;
* `get?_remove`, `get?_clear` — a removed probe is gone, the others stay;
* `get?_setSampler` — sampling changes nothing of a probe but its sampler.

No operation changes the settings under which probes are compiled.
-/

namespace ProbeEngine

/-- Renaming an error makes no result. -/
theorem eq_ok_of_mapError {ε ε' α : Type} {x : Except ε α} {f : ε → ε'} {a : α}
    (h : x.mapError f = .ok a) : x = .ok a := by
  cases x with
  | error e => exact nomatch h
  | ok b => exact congrArg Except.ok (Except.ok.inj h)

section

variable {τ : Type} [SamplingTime τ]

/-- A definition compiles exactly when its condition, its template and its rate do, and
the probe is made of these and what the definition says otherwise. -/
theorem Probe.of_compile {d : ProbeDefinition} {s : Settings} {p : Probe τ}
    (h : Probe.compile d s = .ok p) :
    ∃ condition template sampler, compileCondition d = .ok condition ∧
      compileTemplate d = .ok template ∧ ProbeSampler.ofRate (rateOf d s) = .ok sampler ∧
      p = { id := d.id, version := d.version, type := d.type, location := d.location
            template := template, condition := condition
            capturesSnapshot := d.capturesSnapshot, limits := d.limits s.capture
            evaluateAt := d.evaluateAt, sampler := sampler } := by
  unfold Probe.compile at h
  cases hc : compileCondition d with
  | error e => simp [hc, bind, Except.bind] at h
  | ok c =>
    cases ht : (compileTemplate d).mapError (RegistrationError.template d.id) with
    | error e => simp [hc, ht, bind, Except.bind] at h
    | ok t =>
      cases hr : (ProbeSampler.ofRate (rateOf d s) : Except InvalidRate (ProbeSampler τ)).mapError
          (RegistrationError.sampling d.id) with
      | error e => simp [hc, ht, hr, bind, Except.bind] at h
      | ok x =>
        simp only [hc, ht, hr, bind, Except.bind, Except.ok.injEq] at h
        exact ⟨c, t, x, rfl, eq_ok_of_mapError ht, eq_ok_of_mapError hr, h.symm⟩

/-- The compiled probe has the id of its definition. -/
theorem Probe.id_of_compile {d : ProbeDefinition} {s : Settings} {p : Probe τ}
    (h : Probe.compile d s = .ok p) : p.id = d.id := by
  obtain ⟨_, _, _, -, -, -, rfl⟩ := Probe.of_compile h
  rfl

/-- A new sampler has not fired. -/
theorem ProbeSampler.last_of_ofRate {rate : Float} {x : ProbeSampler τ}
    (h : ProbeSampler.ofRate rate = .ok x) : x.last = none := by
  rw [ProbeSampler.ofRate] at h
  split at h
  · cases h
    rfl
  · cases h

end

namespace Registry

variable {τ : Type}

theorem get?_put (r : Registry τ) (p : Probe τ) (id : String) :
    (r.put p).get? id = if p.id = id then some p else r.get? id := by
  by_cases h : p.id = id
  · subst h
    rw [if_pos rfl]
    exact OrderedTable.get?_put_self _ _ _
  · rw [if_neg h]
    exact OrderedTable.get?_put_of_ne _ _ h

theorem get?_clear (r : Registry τ) (id : String) : r.clear.get? id = none := rfl

theorem get?_remove (r : Registry τ) (i id : String) :
    (r.remove i).1.get? id = if i = id then none else r.get? id := by
  rw [remove]
  cases hi : r.get? i with
  | none =>
    by_cases h : i = id
    · rw [if_pos h, ← h, hi]
    · rw [if_neg h]
  | some p =>
    by_cases h : i = id
    · rw [if_pos h, ← h]
      exact OrderedTable.get?_erase_self _ _
    · rw [if_neg h]
      exact OrderedTable.get?_erase_of_ne _ h

theorem get?_setSampler (r : Registry τ) (i : String) (x : ProbeSampler τ) (id : String) :
    (r.setSampler i x).get? id =
      if i = id then (r.get? id).map fun p => { p with sampler := x } else r.get? id := by
  rw [setSampler]
  cases hi : r.get? i with
  | none =>
    by_cases h : i = id
    · rw [if_pos h, ← h, hi, Option.map_none]
    · rw [if_neg h]
  | some p =>
    by_cases h : i = id
    · rw [if_pos h, ← h, hi, Option.map_some]
      exact OrderedTable.get?_put_self _ _ _
    · rw [if_neg h]
      exact OrderedTable.get?_put_of_ne _ _ h

@[simp] theorem settings_remove (r : Registry τ) (id : String) :
    (r.remove id).1.settings = r.settings := by
  rw [remove]
  split <;> rfl

@[simp] theorem settings_setSampler (r : Registry τ) (id : String) (x : ProbeSampler τ) :
    (r.setSampler id x).settings = r.settings := by
  rw [setSampler]
  split <;> rfl

variable [SamplingTime τ]

/-- The probe that registering a definition puts under an id. -/
def compiled? (s : Settings) (d : ProbeDefinition) (id : String) : Option (Probe τ) :=
  if d.id = id then (Probe.compile d s).toOption else none

theorem get?_register (r : Registry τ) (d : ProbeDefinition) (id : String) :
    (r.register d).registry.get? id = (compiled? r.settings d id).or (r.get? id) := by
  rw [register, compiled?]
  cases hc : (Probe.compile d r.settings : Except RegistrationError (Probe τ)) with
  | error e => by_cases h : d.id = id <;> simp [h, Except.toOption]
  | ok p => by_cases h : d.id = id <;> simp [h, get?_put, Probe.id_of_compile hc, Except.toOption]

@[simp] theorem settings_register (r : Registry τ) (d : ProbeDefinition) :
    (r.register d).registry.settings = r.settings := by
  rw [register]
  split <;> rfl

end Registry

end ProbeEngine
