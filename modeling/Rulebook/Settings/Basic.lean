/-!
# The settings of a service

Where a service listens, what it tells about itself, and whose pages may read its answers.
-/

namespace Rulebook

/-- Where a service listens. -/
structure ServerSettings where
  host : String
  port : UInt16
  deriving DecidableEq, Repr

/-- What a service tells about itself. -/
structure TelemetrySettings where
  logLevel : String
  logFormat : String
  metricsEnabled : Bool
  metricsPort : UInt16
  deriving DecidableEq, Repr

/-- The settings of a service. -/
structure Settings where
  service : String
  environment : String
  server : ServerSettings
  telemetry : TelemetrySettings
  origins : List String
  deriving DecidableEq, Repr

/-- Whether logs are written as JSON. -/
def TelemetrySettings.jsonLogs (t : TelemetrySettings) : Bool :=
  t.logFormat.toList.map Char.toLower = "json".toList

namespace Settings

/-- The address that a service listens on. -/
def address (s : Settings) : String := s!"{s.server.host}:{s.server.port}"

/-- Whether a service runs in production. -/
def isProduction (s : Settings) : Bool := s.environment = "production"

/-- Whether pages of any origin may read answers. -/
def isPermissive (s : Settings) : Bool := s.origins.isEmpty

end Settings

/-- Why settings cannot be loaded. -/
inductive SettingsError where
  /-- A file is no document. -/
  | badFile (name : String)
  /-- A value is not of the kind that is wanted. -/
  | badValue (name : String)
  deriving DecidableEq, Repr

end Rulebook
