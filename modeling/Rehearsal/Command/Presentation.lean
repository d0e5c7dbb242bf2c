import Rehearsal.Json.Typed

/-!
# How the command presents itself

How much is said, and whether in color.
-/

namespace Rehearsal

open Json

/-- How much is said. -/
inductive Verbosity where
  | quiet
  | normal
  | verbose
  | debug
  deriving DecidableEq

namespace Verbosity

/-- Being quiet wins over any number of requests to say more. -/
def ofFlags (quiet : Bool) (verbose : Nat) : Verbosity :=
  if quiet then .quiet
  else
    match verbose with
    | 0 => .normal
    | 1 => .verbose
    | _ => .debug

def name : Verbosity → String
  | .quiet => "Quiet"
  | .normal => "Normal"
  | .verbose => "Verbose"
  | .debug => "Debug"

def all : List Verbosity := [.quiet, .normal, .verbose, .debug]

def isQuiet (v : Verbosity) : Bool := v == .quiet

def isVerbose (v : Verbosity) : Bool := v == .verbose || v == .debug

/-- Which log lines are written unless something else is asked for. -/
def logFilter : Verbosity → String
  | .quiet => "error"
  | .normal => "warn"
  | .verbose => "cockpit_e2e=debug,info"
  | .debug => "cockpit_e2e=trace,debug"

def toJson (v : Verbosity) : Json := .str v.name

def reader : (depth : Nat) → Reader Verbosity := variant (all.map fun v => (v.name, v))

/-- The verbosity of a JSON text. -/
def parse (input : String) : Except Fault Verbosity := document (reader maxDepth) input.toList

end Verbosity

/-- Whether colors are used. -/
inductive ColorChoice where
  | always
  /-- Where the output is a terminal. -/
  | auto
  | never
  deriving DecidableEq

namespace ColorChoice

def name : ColorChoice → String
  | .always => "Always"
  | .auto => "Auto"
  | .never => "Never"

def all : List ColorChoice := [.always, .auto, .never]

/-- Whether colors are used, for an output that is a terminal with colors or is not. -/
def isColored (c : ColorChoice) (terminal : Bool) : Bool :=
  match c with
  | .always => true
  | .never => false
  | .auto => terminal

def toJson (c : ColorChoice) : Json := .str c.name

def reader : (depth : Nat) → Reader ColorChoice := variant (all.map fun c => (c.name, c))

/-- The choice of a JSON text. -/
def parse (input : String) : Except Fault ColorChoice := document (reader maxDepth) input.toList

end ColorChoice

/-- How the command presents itself. -/
structure Presentation where
  verbosity : Verbosity
  color : ColorChoice
  deriving DecidableEq

namespace Presentation

def toJson (p : Presentation) : Json :=
  .obj [("verbosity", p.verbosity.toJson), ("color", p.color.toJson)]

def shape : Shape Presentation (Put Presentation) where
  name := "CliConfig"
  start := ⟨.normal, .auto⟩
  fields :=
    [textField "verbosity" .refused Verbosity.reader fun p verbosity => { p with verbosity },
      textField "color" .refused ColorChoice.reader fun p color => { p with color }]

/-- The presentation of a JSON text. -/
def parse (input : String) : Except Fault Presentation :=
  document (record shape maxDepth) input.toList

end Presentation
end Rehearsal
