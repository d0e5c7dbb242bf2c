import Rehearsal.Command.Presentation
import Rehearsal.Table

/-!
# Arguments of the command

The words of a command line as an invocation. Words are read from left to
right at two levels, that of the command and that of the action behind the
action's name, and the first thing that is wrong ends the reading. The value
of an option that stands in a word of its own is looked at late: when the next
option or the scenario has been found, or at the end of its level.
-/

namespace Rehearsal

/-- Why there is no invocation: a fault, or a wish to be told something. -/
inductive Usage where
  | conflict
  | help
  /-- Nothing was said at all. -/
  | helpForNothing
  | version
  | unknownAction
  | missingAction
  | missingScenario
  | invalidValue
  /-- A value for something that has none. -/
  | needlessValue
  | unknownArgument
  deriving DecidableEq

/-- What the command returns. -/
def Usage.exitCode : Usage → Nat
  | .help => 0
  | .version => 0
  | _ => 2

/-- How a plan is shown. -/
inductive PlanFormat where
  | text
  | json
  | yaml
  deriving DecidableEq

namespace PlanFormat

def all : List (String × PlanFormat) := [("text", .text), ("json", .json), ("yaml", .yaml)]

end PlanFormat

/-- What the command is to do. -/
inductive Action where
  | list
  | plan (scenario : String) (format : PlanFormat) (resources : Option String)
  | setup (scenario : String) (config restUrl resources : Option String) (json : Bool)
  deriving DecidableEq

/-- What is asked of the command. -/
structure Invocation where
  verbose : Nat
  quiet : Bool
  color : ColorChoice
  action : Action
  deriving DecidableEq

/-- How an invocation is presented. -/
def Invocation.presentation (i : Invocation) : Presentation :=
  ⟨.ofFlags i.quiet i.verbose, i.color⟩

namespace Arguments

/-- The options of all levels. -/
inductive Opt where
  | verbose
  | quiet
  | color
  | help
  | version
  | format
  | resources
  | config
  | restUrl
  | json
  deriving DecidableEq

namespace Opt

def long : Opt → String
  | .verbose => "verbose"
  | .quiet => "quiet"
  | .color => "color"
  | .help => "help"
  | .version => "version"
  | .format => "format"
  | .resources => "resources"
  | .config => "config"
  | .restUrl => "rest-url"
  | .json => "json"

/-- The letter of an option, if it has one. -/
def short? : Opt → Option Char
  | .verbose => some 'v'
  | .quiet => some 'q'
  | .help => some 'h'
  | .version => some 'V'
  | .format => some 'f'
  | .config => some 'c'
  | _ => none

def takesValue : Opt → Bool
  | .color => true
  | .format => true
  | .resources => true
  | .config => true
  | .restUrl => true
  | _ => false

def colors : List (String × ColorChoice) :=
  [("auto", .auto), ("always", .always), ("never", .never)]

/-- Whether an option can have a value. Paths are not empty. -/
def allows : Opt → String → Bool
  | .color, value => (Table.get? value colors).isSome
  | .format, value => (Table.get? value PlanFormat.all).isSome
  | .resources, value => !value.isEmpty
  | .config, value => !value.isEmpty
  | _, _ => true

end Opt

/-- The names of the actions, and the one that explains them. -/
inductive ActionName where
  | list
  | plan
  | setup
  | help
  deriving DecidableEq

def ActionName.all : List (String × ActionName) :=
  [("list", .list), ("plan", .plan), ("setup", .setup), ("help", .help)]

/-- A level of the command line: its options, and what other words mean. -/
structure Level where
  options : List Opt
  hasActions : Bool
  hasScenario : Bool

namespace Level

/-- The options that stand at every level. -/
def shared : List Opt := [.verbose, .quiet, .color, .help, .version]

def top : Level := ⟨shared, true, false⟩

def ofAction : ActionName → Level
  | .plan => ⟨shared ++ [.format, .resources], false, true⟩
  | .setup => ⟨shared ++ [.config, .restUrl, .resources, .json], false, true⟩
  | _ => ⟨shared, false, false⟩

/-- The action of a name, where actions have names. -/
def action? (level : Level) (word : String) : Option ActionName :=
  if level.hasActions then Table.get? word ActionName.all else none

end Level

/-- What has been read of a level. -/
structure Given where
  /-- How often more talk was asked for, up to 255. -/
  verbose : Nat := 0
  flags : List Opt := []
  values : List (Opt × String) := []
  scenario : Option String := none
  /-- An option that has not been looked at yet, with its value when that has come. -/
  pending : Option (Opt × Option String) := none

namespace Given

def value? (given : Given) (o : Opt) : Option String :=
  (given.values.find? fun pair => pair.1 == o).map Prod.snd

/-- Whether anything was said. -/
def isSomething (given : Given) : Bool :=
  given.verbose != 0 || !given.flags.isEmpty || !given.values.isEmpty

/-- Takes a flag. -/
def takeFlag (given : Given) : Opt → Except Usage Given
  | .help => .error .help
  | .version => .error .version
  | .verbose => .ok { given with verbose := min 255 (given.verbose + 1) }
  | o =>
    if given.flags.contains o then .error .conflict
    else .ok { given with flags := o :: given.flags }

/-- Takes an option with its value. -/
def takeValue (given : Given) (o : Opt) : Option String → Except Usage Given
  | none => .error .invalidValue
  | some value =>
    if (given.value? o).isSome then .error .conflict
    else if o.allows value then .ok { given with values := (o, value) :: given.values }
    else .error .invalidValue

/-- Looks at the pending option. -/
def settle (given : Given) : Except Usage Given :=
  match given.pending with
  | none => .ok given
  | some (o, value) => takeValue { given with pending := none } o value

/-- Whether the value of an option is due. -/
def isExpecting (given : Given) : Bool :=
  match given.pending with
  | some (_, none) => true
  | _ => false

/-- Reads an option, with its value when that is in the same word. -/
def occur (given : Given) (o : Opt) (attached : Option String) : Except Usage Given := do
  if o.takesValue then
    let given ← given.settle
    match attached with
    | some value => given.takeValue o (some value)
    | none => return { given with pending := some (o, none) }
  else
    match attached with
    | some _ => throw .needlessValue
    | none => (← given.settle).takeFlag o

/-- Takes an environment variable for an option that was not given. -/
def orElse (given : Given) (o : Opt) (value : Option String) : Except Usage Given :=
  match value with
  | none => .ok given
  | some value => if (given.value? o).isSome then .ok given else given.takeValue o (some value)

end Given

/-- A word that begins with two dashes: a name, and perhaps a value. -/
def readLong (level : Level) (given : Given) (word : List Char) : Except Usage Given :=
  let name := word.takeWhile (· != '=')
  let attached :=
    match word.drop name.length with
    | [] => none
    | _ :: value => some (String.ofList value)
  match level.options.find? fun o => o.long.toList == name with
  | some o => given.occur o attached
  | none => .error .unknownArgument

/-- A word that begins with one dash: letters, the last one perhaps with a value. -/
def readShort (level : Level) (given : Given) : List Char → Except Usage Given
  | [] => .ok given
  | c :: rest =>
    match level.options.find? fun o => o.short? == some c with
    | none => .error .unknownArgument
    | some o =>
      if o.takesValue then
        match rest with
        | [] => given.occur o none
        | '=' :: value => given.occur o (some (String.ofList value))
        | value => given.occur o (some (String.ofList value))
      else do
        let given ← given.occur o none
        readShort level given rest

/-- Why a word has no meaning at a level. -/
def meaningless (level : Level) (onlyWords : Bool) (word : String) : Usage :=
  if level.hasActions && !(onlyWords && (level.action? word).isSome) then .unknownAction
  else .unknownArgument

/-- What follows the action that explains the others. -/
def readHelp : List String → Usage
  | [] => .help
  | [word] => if (Table.get? word ActionName.all).isSome then .help else .unknownAction
  | _ => .unknownAction

/-- A word without a meaning of its own: the scenario. -/
def readWord (level : Level) (given : Given) (onlyWords : Bool) (word : String) :
    Except Usage Given := do
  if level.hasScenario && given.scenario.isNone then
    return { ← given.settle with scenario := some word }
  else throw (meaningless level onlyWords word)

/-- Reads a level up to the name of an action. `onlyWords` says that two dashes came
before. -/
def readLevel (level : Level) : (onlyWords : Bool) → Given → List String →
    Except Usage (Given × Option (ActionName × List String))
  | _, given, [] => .ok (given, none)
  | onlyWords, given, word :: rest => do
    if onlyWords then
      let given ← readWord level given onlyWords word
      readLevel level onlyWords given rest
    else
      let action := if given.isExpecting then none else level.action? word
      match action, word.toList with
      | some .help, _ => throw (readHelp rest)
      | some action, _ => return (given, some (action, rest))
      | none, ['-', '-'] => readLevel level true given rest
      | none, '-' :: '-' :: name =>
        let given ← readLong level given name
        readLevel level onlyWords given rest
      | none, '-' :: c :: more =>
        let given ← readShort level given (c :: more)
        readLevel level onlyWords given rest
      | none, _ =>
        match given.pending with
        | some (o, none) =>
          readLevel level onlyWords { given with pending := some (o, some word) } rest
        | _ =>
          let given ← readWord level given onlyWords word
          readLevel level onlyWords given rest

/-- The name of the variable that gives an option of the action that sets up. -/
def variableOf : Opt → Option String
  | .config => some "COCKPIT_E2E_CONFIG"
  | .restUrl => some "COCKPIT_E2E_REST_URL"
  | _ => none

/-- What is given for an action, with what the environment adds. -/
def finish (level : Level) (environment : List (String × String)) (given : Given) :
    Except Usage Given := do
  let fromVariable (given : Given) (o : Opt) :=
    given.orElse o ((variableOf o).bind fun name => Table.get? name environment)
  let given ← level.options.foldlM fromVariable (← given.settle)
  if level.hasScenario && given.scenario.isNone then throw .missingScenario
  return given

/-- The action that is asked for. -/
def action (name : ActionName) (given : Given) : Action :=
  let scenario := given.scenario.getD ""
  match name with
  | .plan =>
    let format := (given.value? .format).bind fun value => Table.get? value PlanFormat.all
    .plan scenario (format.getD .text) (given.value? .resources)
  | .setup =>
    .setup scenario (given.value? .config) (given.value? .restUrl) (given.value? .resources)
      (given.flags.contains .json)
  | _ => .list

/-- The invocation of two levels. What the action says of itself wins. -/
def invocation (top below : Given) (name : ActionName) : Invocation where
  verbose := if below.verbose = 0 then top.verbose else below.verbose
  quiet := top.flags.contains .quiet || below.flags.contains .quiet
  color :=
    let value := (below.value? .color).orElse fun _ => top.value? .color
    (value.bind fun value => Table.get? value Opt.colors).getD .auto
  action := action name below

/-- The invocation that words stand for. -/
def parse (environment : List (String × String)) (words : List String) :
    Except Usage Invocation := do
  let (top, next) ← readLevel .top false {} words
  match next with
  | none =>
    let top ← top.settle
    throw (if top.isSomething then .missingAction else .helpForNothing)
  | some (name, rest) =>
    let level := Level.ofAction name
    let (below, _) ← readLevel level false {} rest
    let below ← finish level environment below
    return invocation (← top.settle) below name

end Arguments
end Rehearsal
