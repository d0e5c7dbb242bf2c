import Rehearsal.Text.Hex

/-!
# Log levels

How important a log line has to be for it to be written.
-/

namespace Rehearsal

open Text

/-- How important a log line has to be. -/
inductive LogLevel where
  | off
  | error
  | warn
  | info
  | debug
  | trace
  deriving DecidableEq

namespace LogLevel

def name : LogLevel → String
  | .off => "off"
  | .error => "error"
  | .warn => "warn"
  | .info => "info"
  | .debug => "debug"
  | .trace => "trace"

def all : List LogLevel := [.off, .error, .warn, .info, .debug, .trace]

/-- The level with a number, which may have a plus sign. -/
def ofNumber? (s : List Char) : Option LogLevel := do
  let digits :=
    match s with
    | '+' :: rest => rest
    | other => other
  if digits.isEmpty then none
  else
    let n := (← digits.mapM digitValue?).foldl (fun n d => n * 10 + d) 0
    all[n]?

/-- A level by its number or by its name in any case. No name at all stands for errors. -/
def ofText? (s : List Char) : Option LogLevel :=
  match ofNumber? s with
  | some level => some level
  | none =>
    if s.isEmpty then some .error
    else all.find? fun level => level.name.toList == s.map Char.toLower

end LogLevel
end Rehearsal
