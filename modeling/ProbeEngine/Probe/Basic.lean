import ProbeEngine.Condition
import ProbeEngine.Config.Basic
import ProbeEngine.Message.Template
import ProbeEngine.Probe.Definition
import ProbeEngine.Sampling.Sampler
import ProbeEngine.Snapshot.Basic

/-!
# Probes

A probe is compiled from its definition and the settings: its condition and
template are expressions, its limits are complete, and it has a sampler of its
own. A definition that does not compile is refused with the first fault, in the
order of condition, template and rate.
-/

namespace ProbeEngine

/-- A compiled probe. -/
structure Probe (τ : Type) where
  id : String
  version : Nat
  type : String
  location : ProbeLocation
  template : Template
  condition : Option Condition
  capturesSnapshot : Bool
  limits : CaptureLimits
  evaluateAt : EvaluateAt
  sampler : ProbeSampler τ

/-- Why a probe is not registered. -/
inductive RegistrationError
  | definition (id : Option String) (cause : DecodeError)
  | condition (id source : String) (cause : CompileError)
  | template (id : String) (cause : CompileError)
  | sampling (id : String) (cause : InvalidRate)

namespace RegistrationError

/-- The id of the probe, if it is known. -/
def id? : RegistrationError → Option String
  | .definition id _ => id
  | .condition id _ _ => some id
  | .template id _ => some id
  | .sampling id _ => some id

/-- What went wrong, in words. -/
def summary : RegistrationError → String
  | .definition _ _ => "invalid probe definition"
  | .condition _ source _ => "invalid condition `" ++ source ++ "`"
  | .template _ _ => "invalid message template"
  | .sampling _ _ => "invalid sampling settings"

/-- The cause in words, unless the reader of patterns has the last one. -/
def cause? : RegistrationError → Option String
  | .definition _ cause => some cause.message
  | .condition _ _ cause => cause.ownMessage?
  | .template _ cause => cause.ownMessage?
  | .sampling _ cause => some cause.message

end RegistrationError

namespace Probe

variable {τ : Type} [SamplingTime τ]

/-- The template of a definition: its segments, or its text where it has none. -/
def compileTemplate (d : ProbeDefinition) : Except CompileError Template :=
  if d.segments.isEmpty then .ok (Template.ofText d.template) else Template.compile d.segments

/-- The condition of a definition, if it has one. -/
def compileCondition (d : ProbeDefinition) :
    Except RegistrationError (Option Condition) :=
  match d.condition with
  | none => .ok none
  | some e =>
    match Condition.compile e with
    | .ok c => .ok (some c)
    | .error cause => .error (.condition d.id e.text cause)

/-- The rate of a definition: its own, or that of the settings. -/
def rateOf (d : ProbeDefinition) (s : Settings) : Float :=
  (d.sampling.bind (·.snapshotsPerSecond)).getD (s.defaultRate d.capturesSnapshot)

/-- Compiles a definition under some settings. -/
def compile (d : ProbeDefinition) (s : Settings) : Except RegistrationError (Probe τ) := do
  let condition ← compileCondition d
  let template ← (compileTemplate d).mapError (.template d.id)
  let sampler ← (ProbeSampler.ofRate (rateOf d s)).mapError (.sampling d.id)
  .ok { id := d.id
        version := d.version
        type := d.type
        location := d.location
        template := template
        condition := condition
        capturesSnapshot := d.capturesSnapshot
        limits := d.limits s.capture
        evaluateAt := d.evaluateAt
        sampler := sampler }

/-- What snapshots say of a probe. -/
def info (p : Probe τ) : ProbeInfo := ⟨p.id, p.version, p.location⟩

/-- The message of a probe for the variables of a call. -/
def message (p : Probe τ) (context : Context) (h : Host.Heap) (maxLength : Nat) : Message :=
  p.template.evaluate context h p.limits maxLength

end Probe

end ProbeEngine
