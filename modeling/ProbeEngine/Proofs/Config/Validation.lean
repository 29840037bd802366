import ProbeEngine.Config.Basic
import ProbeEngine.Proofs.Results

/-!
# Checked settings

Settings and samplers check a rate each in its own way, the one asking whether it is positive, the
other whether it is not, and they agree on every double (`isPositiveRate_eq`). So settings are
accepted, from whatever source they are read, exactly if there is room for a snapshot and a sampler
for every rate of theirs (`Source.settings_of_config`), and others that are read are refused for a
value (`Source.config_of_not_isSamplable`).
-/

namespace ProbeEngine

/-! ## Rates -/

/-- A rate is positive and finite exactly if a sampler does not refuse it. -/
theorem isPositiveRate_eq (rate : Float) :
    isPositiveRate rate = !(!rate.isFinite || decide (rate ≤ 0)) := by
  have hzero : (0 : Float).toModel.unpack = .zero .positive := rfl
  have hlt : 0 < rate ↔
      (Float.Model.UnpackedFloat.zero .positive).lt rate.toModel.unpack = true := by
    rw [← hzero]
    exact decide_eq_true_iff
  have hle : rate ≤ 0 ↔
      rate.toModel.unpack.le (Float.Model.UnpackedFloat.zero .positive) = true := by
    rw [← hzero]
    exact decide_eq_true_iff
  have hfinite : rate.isFinite = rate.toModel.unpack.isFinite := rfl
  simp only [isPositiveRate, hlt, hle, hfinite, Bool.decide_eq_true]
  cases rate.toModel.unpack with
  | notANumber => rfl
  | infinity sign => rfl
  | zero sign => cases sign <;> rfl
  | finite sign m e hm => cases sign <;> rfl

/-- The engine makes a sampler for a rate exactly if settings may have it. -/
theorem ProbeSampler.ofRate_eq (rate : Float) :
    (ofRate rate : Except InvalidRate (ProbeSampler Float)) =
      if isPositiveRate rate then .ok ⟨1000 / rate, none⟩ else .error ⟨rate⟩ := by
  have hinterval : SamplingTime.interval? rate =
      if !rate.isFinite || decide (rate ≤ 0) then none else some (1000 / rate) := rfl
  rw [ofRate, hinterval, isPositiveRate_eq]
  cases !rate.isFinite || decide (rate ≤ 0) <;> rfl

/-! ## Settings -/

/-- Settings under which a probe without a rate of its own can fire: there is room for a snapshot,
and a sampler for the rate of probes of either kind. -/
structure Settings.IsSamplable (s : Settings) : Prop where
  globalLimit_ne_zero : s.sampling.globalLimit ≠ 0
  sampler : ∀ isSnapshot, ∃ x : ProbeSampler Float,
    ProbeSampler.ofRate (s.defaultRate isSnapshot) = .ok x

namespace Config

variable {s : Settings} {c : Config}

theorem invalidSetting?_eq_none_iff : invalidSetting? s = none ↔ s.IsSamplable := by
  have hsampler : ∀ isSnapshot, (∃ x : ProbeSampler Float,
      ProbeSampler.ofRate (s.defaultRate isSnapshot) = .ok x) ↔
        isPositiveRate (s.defaultRate isSnapshot) = true := by
    intro isSnapshot
    rw [ProbeSampler.ofRate_eq]
    cases isPositiveRate (s.defaultRate isSnapshot) <;> simp
  have hsamplable : s.IsSamplable ↔ s.sampling.globalLimit ≠ 0 ∧
      isPositiveRate s.sampling.snapshotRate = true ∧ isPositiveRate s.sampling.logRate = true :=
    ⟨fun h => ⟨h.1, (hsampler true).1 (h.2 true), (hsampler false).1 (h.2 false)⟩,
      fun h => ⟨h.1, Bool.forall_bool.2 ⟨(hsampler false).2 h.2.2, (hsampler true).2 h.2.1⟩⟩⟩
  rw [hsamplable, invalidSetting?]
  by_cases hlimit : s.sampling.globalLimit = 0
  · simp [hlimit]
  · cases isPositiveRate s.sampling.snapshotRate <;> cases isPositiveRate s.sampling.logRate <;>
      simp [hlimit]

theorem check_of_isSamplable (h : s.IsSamplable) : check s = .ok s := by
  rw [check, invalidSetting?_eq_none_iff.2 h]

theorem check_of_not_isSamplable (h : ¬ s.IsSamplable) :
    ∃ setting, check s = .error (.invalidValue setting) := by
  cases hinvalid : invalidSetting? s with
  | none => exact absurd (invalidSetting?_eq_none_iff.1 hinvalid) h
  | some setting => exact ⟨setting, by rw [check, hinvalid]⟩

theorem checkRead_eq_ok_iff {format : ConfigFormat} {file : Option String}
    {settings? : Option Settings} :
    checkRead format file settings? = .ok s ↔ settings? = some s ∧ s.IsSamplable := by
  cases settings? with
  | none => simp [checkRead]
  | some s' =>
    rw [checkRead, Option.some_inj]
    by_cases h : s'.IsSamplable
    · rw [check_of_isSamplable h, Except.ok.injEq]
      exact ⟨fun heq => ⟨heq, heq ▸ h⟩, And.left⟩
    · obtain ⟨setting, herror⟩ := check_of_not_isSamplable h
      rw [herror]
      exact iff_of_false nofun fun heq => h (heq.1 ▸ heq.2)

theorem checkRead_of_not_isSamplable (format : ConfigFormat) (file : Option String)
    (h : ¬ s.IsSamplable) :
    ∃ setting, checkRead format file (some s) = .error (.invalidValue setting) :=
  check_of_not_isSamplable h

/-! ## Sources -/

/-- Where a configuration comes from. -/
inductive Source
  | default
  | yaml (text : String)
  | json (j : Json)
  | folder (name : String) (files : FolderFiles)

namespace Source

/-- The settings that are read from a source, if it can be read. -/
def settings? : Source → Option Settings
  | .default => some {}
  | .yaml text => yamlSettings? text
  | .json j => Settings.ofDocument? Json.documentFormat j
  | .folder _ files =>
    (files.text? (chosenFile files).1).bind fun text =>
      match (chosenFile files).2 with
      | .yaml => yamlSettings? text
      | .json => jsonSettings? text

/-- The configuration of a source, or why there is none. -/
def config : Source → Except ConfigError Config
  | .default => .ok {}
  | .yaml text => ofYaml text
  | .json j => ofJson j
  | .folder name files => ofFolder name files

variable {source : Source}

theorem isSamplable_default : Settings.IsSamplable {} :=
  invalidSetting?_eq_none_iff.1 (by decide +kernel)

/-- A folder is read by its file. -/
theorem config_folder {name : String} {files : FolderFiles} {text : String}
    (h : files.text? (chosenFile files).1 = some text) :
    config (.folder name files) =
      (checkRead (chosenFile files).2 (some (name ++ "/" ++ (chosenFile files).1))
        (settings? (.folder name files))).map fun s => ⟨s, name⟩ := by
  rw [config, ofFolder, settings?]
  dsimp only
  rw [h]
  rfl

/-- **A source gives the settings that are read from it, if they are samplable.** -/
theorem settings_of_config (h : source.config = .ok c) :
    source.settings? = some c.settings ∧ c.settings.IsSamplable := by
  cases source with
  | default =>
    cases h
    exact ⟨rfl, isSamplable_default⟩
  | yaml text =>
    obtain ⟨s, hs, rfl⟩ := map_eq_ok_iff.1 h
    exact checkRead_eq_ok_iff.1 hs
  | json j =>
    obtain ⟨s, hs, rfl⟩ := map_eq_ok_iff.1 h
    exact checkRead_eq_ok_iff.1 hs
  | folder name files =>
    cases htext : files.text? (chosenFile files).1 with
    | none =>
      rw [config, ofFolder] at h
      dsimp only at h
      rw [htext] at h
      cases h
    | some text =>
      rw [config_folder htext] at h
      obtain ⟨s, hs, rfl⟩ := map_eq_ok_iff.1 h
      exact checkRead_eq_ok_iff.1 hs

/-- **Settings that are read and not samplable are refused for a value.** -/
theorem config_of_not_isSamplable (hread : source.settings? = some s) (h : ¬ s.IsSamplable) :
    ∃ setting, source.config = .error (.invalidValue setting) := by
  cases source with
  | default =>
    cases hread
    exact absurd isSamplable_default h
  | yaml text =>
    obtain ⟨setting, hs⟩ := checkRead_of_not_isSamplable .yaml none h
    rw [← hread] at hs
    exact ⟨setting, map_eq_error_iff.2 hs⟩
  | json j =>
    obtain ⟨setting, hs⟩ := checkRead_of_not_isSamplable .json none h
    rw [← hread] at hs
    exact ⟨setting, map_eq_error_iff.2 hs⟩
  | folder name files =>
    cases htext : files.text? (chosenFile files).1 with
    | none =>
      rw [settings?, htext] at hread
      cases hread
    | some text =>
      rw [config_folder htext, hread]
      obtain ⟨setting, hs⟩ := checkRead_of_not_isSamplable _ _ h
      exact ⟨setting, map_eq_error_iff.2 hs⟩

end Source

end Config

end ProbeEngine
