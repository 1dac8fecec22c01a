/-!
# The log

The console reports what it does in a log.  An entry has a level and a text.
Entries are only ever added.
-/

namespace Chip8Console

/-- How much an entry of the log matters. -/
inductive LogLevel where
  /-- Something failed. -/
  | error
  /-- Something may be wrong. -/
  | warn
  /-- Something the user may want to know. -/
  | info
  /-- Something only a developer wants to know. -/
  | debug
  deriving DecidableEq

/-- The name of a level. -/
def LogLevel.text : LogLevel → String
  | .error => "ERROR"
  | .warn => "WARN"
  | .info => "INFO"
  | .debug => "DEBUG"

/-- One entry of the log. -/
structure LogEntry where
  /-- How much it matters. -/
  level : LogLevel
  /-- What it says. -/
  text : String
  deriving DecidableEq

/-- An entry as one line of text. -/
def LogEntry.line (entry : LogEntry) : String := entry.level.text ++ " " ++ entry.text

end Chip8Console
