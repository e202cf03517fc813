namespace AirMonitor

inductive LogLevel where
  | debug
  | info
  | warn
  | error
  deriving DecidableEq, Repr

def LogLevel.label : LogLevel → String
  | .debug => "DEBUG"
  | .info => "INFO"
  | .warn => "WARN"
  | .error => "ERROR"

structure LogLine where
  level : LogLevel
  text : String
  deriving DecidableEq, Repr

def LogLine.render (line : LogLine) : String := line.level.label ++ " " ++ line.text

/-- A state that keeps what was logged, oldest line first. -/
class Journaled (σ : Type) where
  journal : σ → List LogLine
  withJournal : List LogLine → σ → σ

def log [Journaled σ] (level : LogLevel) (text : String) : StateM σ Unit :=
  modify fun s => Journaled.withJournal (Journaled.journal s ++ [⟨level, text⟩]) s

end AirMonitor
