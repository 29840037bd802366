import Mathlib.Data.List.Nodup
import ProbeEngine.Proofs.Probe.Registry

/-!
# Lists of definitions

A list of definitions is registered entry by entry. Each entry has an outcome of its own
(`DefinitionEntry.outcome`): the probe that it makes, or the reason why it makes none. What
a list leaves behind is a matter of these outcomes alone:

* `listOfJson_array` — reading a list never fails, and each entry is that of its element;
* `get?_registerEntries` — the probe of an id is the last one that an entry makes of it, or
  else the one that there was;
* `errors_registerEntries` — the errors are those of the entries that fail, in order;
* `registerAll_eq` — a list of definitions is registered as if it were one of entries;
* `registration_is_isolated` — all of this together, and that **the order of entries that
  make probes of different ids does not matter**.
-/

namespace ProbeEngine

/-! ## Entries and their outcomes -/

namespace DefinitionEntry

/-- An entry is a definition exactly if its element decodes, to this definition. -/
theorem ofJson_eq_definition_iff {j : Json} {d : ProbeDefinition} :
    ofJson j = .definition d ↔ ProbeDefinition.ofJson j = .ok d := by
  unfold ofJson
  cases ProbeDefinition.ofJson j <;> simp

/-- An entry is malformed exactly if its element does not decode; it keeps the id and the
reason. -/
theorem ofJson_eq_malformed_iff {j : Json} {id : Option String} {cause : DecodeError} :
    ofJson j = .malformed id cause ↔ idOf? j = id ∧ ProbeDefinition.ofJson j = .error cause := by
  unfold ofJson
  cases ProbeDefinition.ofJson j <;> simp

theorem listOfJson_array (js : List Json) : listOfJson (.array js) = .ok (js.map ofJson) := by
  show js.mapM (fun j => Except.ok (ofJson j)) = .ok (js.map ofJson)
  induction js with
  | nil => rfl
  | cons j js ih => rw [List.mapM_cons, ih, List.map_cons]; rfl

variable {τ : Type} [SamplingTime τ]

/-- The probe that an entry makes under some settings, or why it makes none. -/
def outcome (s : Settings) : DefinitionEntry → Except RegistrationError (Probe τ)
  | .definition d => Probe.compile d s
  | .malformed id cause => .error (.definition id cause)

/-- The probe that an entry makes. -/
def probe? (s : Settings) (e : DefinitionEntry) : Option (Probe τ) := (e.outcome s).toOption

/-- The error of an entry that makes no probe. -/
def error? (τ : Type) [SamplingTime τ] (s : Settings) (e : DefinitionEntry) :
    Option RegistrationError :=
  match (e.outcome s : Except RegistrationError (Probe τ)) with
  | .ok _ => none
  | .error x => some x

/-- The probe that an entry makes has the id of the entry. -/
theorem id?_of_probe? {s : Settings} {e : DefinitionEntry} {p : Probe τ}
    (h : e.probe? s = some p) : e.id? = some p.id := by
  cases e with
  | malformed id cause => exact nomatch h
  | definition d =>
    cases hc : (Probe.compile d s : Except RegistrationError (Probe τ)) with
    | error x => simp [probe?, outcome, hc, Except.toOption] at h
    | ok q =>
      obtain rfl : q = p := by simpa [probe?, outcome, hc, Except.toOption] using h
      rw [id?, Probe.id_of_compile hc]

end DefinitionEntry

namespace Registry

variable {τ : Type} [SamplingTime τ]

/-! ## One entry -/

theorem get?_registerEntry (r : Registry τ) (e : DefinitionEntry) (id : String) :
    (r.registerEntry e).registry.get? id =
      ((e.probe? r.settings).filter fun p => p.id = id).or (r.get? id) := by
  cases e with
  | malformed id' cause => rfl
  | definition d =>
    rw [registerEntry, get?_register, compiled?, DefinitionEntry.probe?, DefinitionEntry.outcome]
    cases hc : (Probe.compile d r.settings : Except RegistrationError (Probe τ)) with
    | error x => simp [Except.toOption]
    | ok p =>
      by_cases h : d.id = id <;>
        simp [Except.toOption, Option.filter, h, Probe.id_of_compile hc]

theorem errors_registerEntry (r : Registry τ) (e : DefinitionEntry) :
    (r.registerEntry e).errors = (e.error? τ r.settings).toList := by
  cases e with
  | malformed id cause => rfl
  | definition d =>
    rw [registerEntry, register, DefinitionEntry.error?, DefinitionEntry.outcome]
    cases (Probe.compile d r.settings : Except RegistrationError (Probe τ)) <;> rfl

@[simp] theorem settings_registerEntry (r : Registry τ) (e : DefinitionEntry) :
    (r.registerEntry e).registry.settings = r.settings := by
  cases e with
  | malformed id cause => rfl
  | definition d => exact settings_register r d

/-! ## Lists of entries -/

/-- The last probe of an id that some entries make. -/
def lastProbe? (s : Settings) (es : List DefinitionEntry) (id : String) : Option (Probe τ) :=
  ((es.filterMap fun e => e.probe? s).filter fun p => p.id = id).getLast?

theorem lastProbe?_cons (s : Settings) (e : DefinitionEntry) (es : List DefinitionEntry)
    (id : String) :
    lastProbe? s (e :: es) id =
      (lastProbe? s es id).or ((e.probe? s).filter fun p : Probe τ => p.id = id) := by
  unfold lastProbe?
  cases he : (e.probe? s : Option (Probe τ)) with
  | none => simp [he]
  | some p => by_cases h : p.id = id <;> simp [he, h, List.getLast?_cons, Option.filter]

/-- The probe of an id after a list is the last one that an entry makes of it, and else the
one that there was before, as it was. -/
theorem get?_registerEntries (r : Registry τ) (es : List DefinitionEntry) (id : String) :
    (r.registerEntries es).registry.get? id =
      (lastProbe? r.settings es id).or (r.get? id) := by
  induction es generalizing r with
  | nil => rfl
  | cons e es ih =>
    rw [registerEntries, ih, settings_registerEntry, get?_registerEntry, lastProbe?_cons,
      Option.or_assoc]

/-- The errors of a list are those of the entries that make no probe, in order. -/
theorem errors_registerEntries (r : Registry τ) (es : List DefinitionEntry) :
    (r.registerEntries es).errors = es.filterMap fun e => e.error? τ r.settings := by
  induction es generalizing r with
  | nil => rfl
  | cons e es ih =>
    rw [registerEntries, ih, settings_registerEntry, errors_registerEntry, List.filterMap_cons]
    cases e.error? τ r.settings <;> rfl

@[simp] theorem settings_registerEntries (r : Registry τ) (es : List DefinitionEntry) :
    (r.registerEntries es).registry.settings = r.settings := by
  induction es generalizing r with
  | nil => rfl
  | cons e es ih => rw [registerEntries, ih, settings_registerEntry]

/-- A list of definitions is registered as one of entries is. -/
theorem registerAll_eq (r : Registry τ) (ds : List ProbeDefinition) :
    r.registerAll ds = r.registerEntries (ds.map .definition) := by
  induction ds generalizing r with
  | nil => rfl
  | cons d ds ih => rw [registerAll, ih, List.map_cons, registerEntries, registerEntry]

/-! ## The order of entries -/

/-- Two registries that hold the same probes under the same settings. In which order the
probes came in is not to be seen. -/
structure Agrees (r r' : Registry τ) : Prop where
  settings : r.settings = r'.settings
  get? : ∀ id, r.get? id = r'.get? id

/-- The ids of the probes that some entries make are among the ids of the entries. -/
theorem ids_sublist (s : Settings) (es : List DefinitionEntry) :
    ((es.filterMap fun e => (e.probe? s : Option (Probe τ))).map (·.id)).Sublist
      (es.filterMap DefinitionEntry.id?) := by
  induction es with
  | nil => exact .slnil
  | cons e es ih =>
    cases hp : (e.probe? s : Option (Probe τ)) with
    | none =>
      rw [List.filterMap_cons_none hp]
      exact ih.trans ((List.sublist_cons_self e es).filterMap _)
    | some p =>
      rw [List.filterMap_cons_some hp,
        List.filterMap_cons_some (DefinitionEntry.id?_of_probe? hp)]
      exact ih.cons_cons p.id

omit [SamplingTime τ] in
/-- If no two probes have the same id, at most one has a given one, so the order of the
probes does not matter. -/
theorem filter_id_eq_of_perm {ps ps' : List (Probe τ)} (hperm : ps.Perm ps')
    (hids : (ps.map (·.id)).Nodup) (id : String) :
    (ps.filter fun p => p.id = id) = ps'.filter fun p => p.id = id := by
  have hfilter : (ps.filter fun p => p.id = id).Perm (ps'.filter fun p => p.id = id) :=
    hperm.filter _
  have hnodup : ((ps.filter fun p => p.id = id).map (·.id)).Nodup :=
    hids.sublist (List.filter_sublist.map _)
  have hid : ∀ p ∈ ps.filter fun p => p.id = id, p.id = id :=
    fun p hp => of_decide_eq_true (List.mem_filter.1 hp).2
  -- two probes of the id would be two equal members of a list without duplicates
  generalize ps.filter (fun p => p.id = id) = qs at *
  cases qs with
  | nil => exact hfilter.nil_eq
  | cons p rest =>
    cases rest with
    | nil => exact hfilter.singleton_eq
    | cons q rest =>
      have hpq : p.id = q.id := (hid p (by simp)).trans (hid q (by simp)).symm
      simp [hpq] at hnodup

theorem agrees_registerEntries_of_perm (r : Registry τ) {es es' : List DefinitionEntry}
    (hperm : es.Perm es')
    (hids : ((es.filterMap fun e => (e.probe? r.settings : Option (Probe τ))).map (·.id)).Nodup) :
    (r.registerEntries es).registry.Agrees (r.registerEntries es').registry where
  settings := by rw [settings_registerEntries, settings_registerEntries]
  get? id := by
    rw [get?_registerEntries, get?_registerEntries, lastProbe?, lastProbe?,
      filter_id_eq_of_perm (hperm.filterMap _) hids id]

/-- **Registration is isolated, and the last success wins.** Reading an array as a list of
entries never fails; there is one entry for each element, a definition exactly if the
element decodes to it. Registering the entries binds each id to the probe of the last entry
that makes one of it, and leaves the probe of an id of which no entry makes one as it was.
The errors are those of the failing entries in order. Entries of which no two make probes
of the same id, in particular entries of different ids, may come in any order. -/
theorem registration_is_isolated (r : Registry τ) (js : List Json) :
    ∃ es, DefinitionEntry.listOfJson (.array js) = .ok es ∧ es.length = js.length ∧
      (∀ (i : Nat) (d : ProbeDefinition), es[i]? = some (.definition d) ↔
        ∃ j, js[i]? = some j ∧ ProbeDefinition.ofJson j = .ok d) ∧
      (∀ (i : Nat) (id : Option String) (cause : DecodeError),
        es[i]? = some (.malformed id cause) ↔
          ∃ j, js[i]? = some j ∧ DefinitionEntry.idOf? j = id ∧
            ProbeDefinition.ofJson j = .error cause) ∧
      (∀ id, (r.registerEntries es).registry.get? id =
        (lastProbe? r.settings es id).or (r.get? id)) ∧
      (r.registerEntries es).errors = es.filterMap (fun e => e.error? τ r.settings) ∧
      (∀ es', es.Perm es' →
        ((es.filterMap fun e => (e.probe? r.settings : Option (Probe τ))).map (·.id)).Nodup →
          (r.registerEntries es).registry.Agrees (r.registerEntries es').registry) ∧
      ((es.filterMap fun e => (e.probe? r.settings : Option (Probe τ))).map (·.id)).Sublist
        (es.filterMap DefinitionEntry.id?) ∧
      ∀ ds : List ProbeDefinition, r.registerAll ds = r.registerEntries (ds.map .definition) := by
  refine ⟨js.map DefinitionEntry.ofJson, DefinitionEntry.listOfJson_array js,
    List.length_map _, fun i d => ?_, fun i id cause => ?_, get?_registerEntries r _,
    errors_registerEntries r _, fun es' => agrees_registerEntries_of_perm r, ids_sublist _ _,
    registerAll_eq r⟩
  · simp only [List.getElem?_map, Option.map_eq_some_iff,
      DefinitionEntry.ofJson_eq_definition_iff]
  · simp only [List.getElem?_map, Option.map_eq_some_iff,
      DefinitionEntry.ofJson_eq_malformed_iff]

/-- A list of which the second entry is malformed, the third does not compile, and the last
one makes a probe of the id of the second: the list may be turned around. -/
theorem registration_of_turned_list :
    let r : Registry Float := { settings := {} }
    let js : List Json :=
      [.object [("id", .string "a")],
        .object [("captureSnapshot", .string "yes"), ("id", .string "b")],
        .object [("id", .string "a"), ("when", .object
          [("dsl", .string "?"), ("json", .object [("nope", .null)])])],
        .object [("id", .string "b")]]
    let es := js.map DefinitionEntry.ofJson
    ((es.filterMap fun e => (e.probe? r.settings : Option (Probe Float))).map (·.id)).Nodup ∧
      es.Perm es.reverse ∧
      (r.registerEntries es).registry.Agrees (r.registerEntries es.reverse).registry ∧
      (r.registerEntries es).errors.map RegistrationError.id? = [some "b", some "a"] := by
  intro r js es
  have hids : ((es.filterMap fun e =>
      (e.probe? r.settings : Option (Probe Float))).map (·.id)).Nodup := by decide +kernel
  obtain ⟨es', hes, -, -, -, -, herrors, hturned, -⟩ := registration_is_isolated r js
  obtain rfl : es = es' := Except.ok.inj ((DefinitionEntry.listOfJson_array js).symm.trans hes)
  refine ⟨hids, (List.reverse_perm es).symm,
    hturned es.reverse (List.reverse_perm es).symm hids, ?_⟩
  rw [herrors]
  decide +kernel

end Registry

end ProbeEngine
