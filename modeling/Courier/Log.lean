/-!
# Log entries

What the library reports about its own running. Warnings and errors tell of something that was lost
or given up.
-/

namespace Courier

/-- How serious an entry is. -/
inductive Severity where
  | info
  | warning
  | error
  deriving DecidableEq, Repr

def Severity.text : Severity → String
  | info => "INFO"
  | warning => "WARN"
  | error => "ERROR"

/-- An entry of a log. -/
structure LogEntry where
  severity : Severity
  message : String
  deriving DecidableEq, Repr

namespace LogEntry

def info (message : String) : LogEntry := ⟨.info, message⟩

def warning (message : String) : LogEntry := ⟨.warning, message⟩

def error (message : String) : LogEntry := ⟨.error, message⟩

def line (entry : LogEntry) : String := entry.severity.text ++ " " ++ entry.message

end LogEntry

end Courier
