import ProbeEngine.Log.Chain
import ProbeEngine.Log.Event

/-!
# The registry

The active probes by their ids. Registering a probe replaces the one of its id
with its sampling state; a definition that fails changes nothing, and in a list
no definition prevents the others.
-/

namespace ProbeEngine

/-- The text of a registration error with its cause. -/
def RegistrationError.text (e : RegistrationError) : String :=
  Log.chainText (e.summary :: e.cause?.toList)

/-- The active probes, and the settings under which probes are compiled. -/
structure Registry (τ : Type) where
  settings : Settings
  probes : OrderedTable String (Probe τ) := OrderedTable.empty

/-- What registering a list leaves behind: the registry, the errors in the order of
the list, and the events. -/
structure Registration (τ : Type) where
  registry : Registry τ
  errors : List RegistrationError
  events : List LogEvent

namespace Registry

variable {τ : Type} [SamplingTime τ]

/-- The probe of an id. -/
def get? (r : Registry τ) (id : String) : Option (Probe τ) := r.probes.get? id

/-- The ids of the active probes. -/
def ids (r : Registry τ) : List String := r.probes.keys

/-- Writes a probe under its id. -/
def put (r : Registry τ) (p : Probe τ) : Registry τ := { r with probes := r.probes.put p.id p }

/-- Registers a probe. -/
def register (r : Registry τ) (d : ProbeDefinition) : Registration τ :=
  match Probe.compile d r.settings with
  | .ok p => ⟨r.put p, [], [.registered p.id p.version]⟩
  | .error e => ⟨r, [e], [.registrationFailed d.id d.version e]⟩

/-- Registers an entry of a list. -/
def registerEntry (r : Registry τ) : DefinitionEntry → Registration τ
  | .definition d => r.register d
  | .malformed id cause => ⟨r, [.definition id cause], [.malformedDefinition id]⟩

/-- Registers the entries of a list in order. -/
def registerEntries (r : Registry τ) : List DefinitionEntry → Registration τ
  | [] => ⟨r, [], []⟩
  | e :: es =>
    let first := r.registerEntry e
    let rest := first.registry.registerEntries es
    ⟨rest.registry, first.errors ++ rest.errors, first.events ++ rest.events⟩

/-- Registers definitions in order. -/
def registerAll (r : Registry τ) : List ProbeDefinition → Registration τ
  | [] => ⟨r, [], []⟩
  | d :: ds =>
    let first := r.register d
    let rest := first.registry.registerAll ds
    ⟨rest.registry, first.errors ++ rest.errors, first.events ++ rest.events⟩

/-- Removes the probe of an id, if there is one. -/
def remove (r : Registry τ) (id : String) : Registry τ × List LogEvent :=
  match r.get? id with
  | some _ => ({ r with probes := r.probes.erase id }, [.removed id])
  | none => (r, [])

/-- Removes all probes. -/
def clear (r : Registry τ) : Registry τ := { r with probes := OrderedTable.empty }

/-- Changes the sampling state of a probe. -/
def setSampler (r : Registry τ) (id : String) (s : ProbeSampler τ) : Registry τ :=
  match r.get? id with
  | some p => { r with probes := r.probes.put id { p with sampler := s } }
  | none => r

end Registry

end ProbeEngine
