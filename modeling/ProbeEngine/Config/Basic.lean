import ProbeEngine.Config.Document
import ProbeEngine.Config.Error
import ProbeEngine.Yaml.Value

/-!
# Configuration

Settings come from a folder with a configuration file, from a YAML text or from
a JSON value. They are refused if the document does not give settings, or if a
limit is zero or a rate is no positive finite number.
-/

namespace ProbeEngine

/-- The YAML documents as settings read them. -/
def Yaml.documentFormat (d : Yaml.Document) : DocumentFormat Yaml.Node where
  record? := d.record?
  natural? := d.natural?
  number? := d.number?
  bool? := d.bool?
  choice? := d.choice?

/-- Settings that were checked, and the folder they are from, if any. -/
structure Config where
  settings : Settings := {}
  folder : String := ""

namespace Config

/-- The first setting that is out of range. -/
def invalidSetting? (s : Settings) : Option String :=
  if s.sampling.globalLimit = 0 then some "sampling.global_snapshots_per_second"
  else if !isPositiveRate s.sampling.snapshotRate then
    some "sampling.default_snapshots_per_second"
  else if !isPositiveRate s.sampling.logRate then some "sampling.default_logs_per_second"
  else none

/-- Checks settings. -/
def check (s : Settings) : Except ConfigError Settings :=
  match invalidSetting? s with
  | some setting => .error (.invalidValue setting)
  | none => .ok s

/-- The settings of a YAML text. -/
def yamlSettings? (text : String) : Option Settings :=
  (Yaml.Document.ofText? text).bind fun d =>
    Settings.ofDocument? (Yaml.documentFormat d) d.root

/-- The settings of a JSON text. -/
def jsonSettings? (text : String) : Option Settings :=
  (Json.Outline.ofText? text).bind (Settings.ofDocument? Json.Outline.documentFormat)

/-- The settings that were read, or the error that they were not. -/
def checkRead (format : ConfigFormat) (file : Option String) :
    Option Settings → Except ConfigError Settings
  | some s => check s
  | none => .error (.unreadable format file)

/-- The configuration of a YAML text. -/
def ofYaml (text : String) : Except ConfigError Config :=
  (checkRead .yaml none (yamlSettings? text)).map fun s => { settings := s }

/-- The configuration of a JSON value. -/
def ofJson (j : Json) : Except ConfigError Config :=
  (checkRead .json none (Settings.ofDocument? Json.documentFormat j)).map fun s =>
    { settings := s }

/-! ## Folders -/

/-- The files of a folder by their names. -/
abbrev FolderFiles := List (String × String)

/-- The text of a file. -/
def FolderFiles.text? (files : FolderFiles) (name : String) : Option String :=
  Record.field? files name

/-- The file that is read in a folder: the YAML file if it is there or the JSON file
is not. -/
def chosenFile (files : FolderFiles) : String × ConfigFormat :=
  if (files.text? "config.yml").isSome || (files.text? "config.json").isNone then
    ("config.yml", .yaml)
  else ("config.json", .json)

/-- The configuration of a folder with some files. -/
def ofFolder (folder : String) (files : FolderFiles) : Except ConfigError Config :=
  let (name, format) := chosenFile files
  let path := folder ++ "/" ++ name
  match files.text? name with
  | none => .error (.cannotOpen path)
  | some text =>
    let settings? := match format with
      | .yaml => yamlSettings? text
      | .json => jsonSettings? text
    (checkRead format (some path) settings?).map fun s => ⟨s, folder⟩

end Config

end ProbeEngine
