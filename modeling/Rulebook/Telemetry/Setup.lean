/-!
# Setting up logs and metrics

A process has one logger and one recorder of metrics, and each can be installed once.
-/

namespace Rulebook

/-- Which of the two are installed. -/
structure Setup where
  logger : Bool
  recorder : Bool
  deriving DecidableEq, Repr

/-- Why something cannot be installed. -/
inductive SetupError where
  | loggerInstalled
  | recorderInstalled
  deriving DecidableEq, Repr

/-- What a setup error is called. -/
def SetupError.message : SetupError → String
  | .loggerInstalled => "a global default trace dispatcher has already been set"
  | .recorderInstalled =>
    "failed to install exporter as global recorder: attempted to set a recorder after the " ++
      "metrics system was already initialized"

/-- What an installation leaves behind: whether metrics are exported until it is dropped. -/
structure Setup.Guard where
  exportsMetrics : Bool
  deriving DecidableEq, Repr

namespace Setup

/-- Nothing is installed. -/
def none : Setup := ⟨false, false⟩

/-- The guard of an installation that exports nothing. -/
def Guard.empty : Guard := ⟨false⟩

/-- Installs the logger. -/
def installLogger (s : Setup) : Except SetupError Setup :=
  if s.logger then .error .loggerInstalled else .ok { s with logger := true }

/-- Installs the recorder of metrics. -/
def installRecorder (s : Setup) : Except SetupError Setup :=
  if s.recorder then .error .recorderInstalled else .ok { s with recorder := true }

/-- Installs the logger and then, if metrics are wanted, the recorder. -/
def install (metrics : Bool) (s : Setup) : Except SetupError (Guard × Setup) := do
  let s ← s.installLogger
  if metrics then pure (⟨true⟩, ← s.installRecorder) else pure (Guard.empty, s)

end Setup

end Rulebook
