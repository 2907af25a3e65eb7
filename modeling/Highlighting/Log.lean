import Highlighting.Text.Basic

/-!
# Log records

What happens during a call is recorded at one of four levels. Where records are kept is decided
when a logger is made: nowhere, on the standard output, or in a file.

## Main definitions

* `LogLevel`, `LogRecord` -- a record and its level.
* `LogTarget`, `LogTarget.choose` -- where a logger writes.
-/
namespace Highlighting

/-- How serious a record is. -/
inductive LogLevel where
  | debug
  | info
  | warning
  | error
deriving DecidableEq, Repr

namespace LogLevel

/-- The name of a level in a record. -/
def label : LogLevel → String
  | debug => "DEBUG"
  | info => "INFO"
  | warning => "WARNING"
  | error => "ERROR"

/-- The name by which a level is asked for. -/
def name : LogLevel → String
  | debug => "debug"
  | info => "info"
  | warning => "warning"
  | error => "error"

/-- The level of a name. -/
def named? (s : String) : Option LogLevel :=
  [debug, info, warning, error].find? (·.name == s)

/-- The message for a level that a logger does not have. -/
def unknownMessage (name : String) : String :=
  "'Logger' object has no attribute '" ++ name ++ "'"

end LogLevel

/-- A record. -/
structure LogRecord where
  level : LogLevel
  message : String
deriving DecidableEq, Repr

/-- The level and the message of a record. -/
def LogRecord.line (r : LogRecord) : String :=
  r.level.label ++ " - " ++ r.message

/-- Where records are asked to go. -/
inductive LogTarget where
  | nowhere
  | stdout
  /-- The file that is written to unless another is named. -/
  | standard
  | file (path : Text)
deriving DecidableEq, Repr

/-- The path of the file that is written to unless another is named. -/
def standardLogFile : Text := "logs/hilite_debug.log".toList

/-- Where records go that are asked for in these words. A dash names the standard output. -/
def LogTarget.choose (enabled : Bool) (file : Option Text) : LogTarget :=
  if !enabled then .nowhere
  else
    match file with
    | none => .standard
    | some path => if path = ['-'] then .stdout else .file path

end Highlighting
