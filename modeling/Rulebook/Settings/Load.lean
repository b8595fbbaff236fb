import Rulebook.Settings.Folder
import Rulebook.Text.Blank

/-!
# Loading settings

Settings come in layers, a later one over an earlier one: the service and its environment, the
files `default.toml`, that of the environment and that of the service, and the variables of the
environment. What no layer gives has a default. Two variables of their own then replace the port
and the origins.
-/

namespace Rulebook

/-! ## From a table -/

namespace Setting

/-- The part of a section by its key in a table, or by its place in a list. -/
def part? (place : Nat) (key : String) : Setting → Option Setting
  | .list items => items[place]?
  | s => s.child? key

/-- The part of a section, converted; one that is not there has a default. -/
def part {α : Type} (convert : Setting → Option α) (default : α) (place : Nat) (key : String)
    (s : Setting) : Except SettingsError α :=
  match s.part? place key with
  | none => .ok default
  | some p =>
    match convert p with
    | some value => .ok value
    | none => .error (.badValue key)

/-- A setting that is made of parts. -/
def asSection? : Setting → Option Setting
  | .list items => some (.list items)
  | .table es => some (.table es)
  | _ => none

/-- The section with this key or place; one that is not there is empty. -/
def sectionAt (place : Nat) (key : String) (s : Setting) : Except SettingsError Setting :=
  s.part asSection? (.table []) place key

end Setting

/-- The settings of a server in a section; by default it listens everywhere. -/
def ServerSettings.ofSection (s : Setting) : Except SettingsError ServerSettings := do
  let host ← s.part Setting.asText? "0.0.0.0" 0 "host"
  let port ← s.part Setting.asPort? 3000 1 "port"
  pure ⟨host, port⟩

/-- The settings of logs and metrics in a section. -/
def TelemetrySettings.ofSection (s : Setting) : Except SettingsError TelemetrySettings := do
  let logLevel ← s.part Setting.asText? "info" 0 "log_level"
  let logFormat ← s.part Setting.asText? "pretty" 1 "log_format"
  let metricsEnabled ← s.part Setting.asFlag? true 2 "metrics_enabled"
  let metricsPort ← s.part Setting.asPort? 9090 3 "metrics_port"
  pure ⟨logLevel, logFormat, metricsEnabled, metricsPort⟩

namespace Settings

/-- The settings in a table. -/
def ofTable (s : Setting) : Except SettingsError Settings := do
  let service ← s.part Setting.asText? "" 0 "service_name"
  let environment ← s.part Setting.asText? "" 1 "environment"
  let server ← ServerSettings.ofSection (← s.sectionAt 2 "server")
  let telemetry ← TelemetrySettings.ofSection (← s.sectionAt 3 "observability")
  let origins ← (← s.sectionAt 4 "cors").part Setting.asTexts? [] 0 "allowed_origins"
  pure ⟨service, environment, server, telemetry, origins⟩

/-! ## From files and variables -/

/-- The name of the variable that holds the port of a service. -/
def portVariable (service : String) : String :=
  String.ofList ((Text.upper service).toList.map fun c => if c = '-' then '_' else c) ++ "_PORT"

/-- The port that a text denotes. -/
def portOf? (s : String) : Option UInt16 := (Numeral.unsigned? s.toList).bind Setting.port?

/-- The origins that a text lists between commas. The asterisk stands for no restriction and is
left out. -/
def originsOf (s : String) : List String :=
  ((Text.split ',' s.toList).map fun item => String.ofList (Text.trim item)).filter fun origin =>
    !origin.isEmpty && origin ≠ "*"

/-- Loads the settings of a service. -/
def load (service : String) (files : Setting.Folder) (vars : List (String × String)) :
    Except SettingsError Settings := do
  let environment := (vars.lookup "RULE_ENV").getD "development"
  let names := ["default.toml", environment ++ ".toml", service ++ ".toml"]
  let layers ← names.mapM (Setting.Folder.layer files)
  let basis : Setting :=
    .table [("service_name", .text service), ("environment", .text environment)]
  let s ← ofTable ((layers ++ [Setting.variableLayer vars]).foldl Setting.withLayer basis)
  let port := ((vars.lookup (portVariable service)).bind portOf?).getD s.server.port
  let origins := ((vars.lookup "RULE_CORS_ORIGINS").map originsOf).getD s.origins
  pure { s with server := { s.server with port }, origins }

end Settings

end Rulebook
