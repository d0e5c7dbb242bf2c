import Rehearsal.Command.Presentation
import Rehearsal.Log.Directive

/-!
# Log filters

A filter says, in directives between commas, which log lines are written. In its own text
the most specific directives come first, those that look at spans last.
-/

namespace Rehearsal

open Text

/-- The directives of a filter. -/
structure LogFilter where
  directives : List LogDirective

namespace LogFilter

/-- The filter of a text, if each of its directives has a meaning. Empty ones do not
count. -/
def ofText? (s : String) : Option LogFilter := do
  return ⟨← (words (· == ',') s.toList).mapM LogDirective.ofText?⟩

/-- The directives in order, each of them once. -/
def ordered (directives : List LogDirective) : List LogDirective :=
  directives.foldl (fun found d => d.insert found) []

/-- The text of a filter. A directive on the fields of any span stands there twice when it
asks for no value. -/
def text (filter : LogFilter) : String :=
  let dynamic := filter.directives.filter LogDirective.isDynamic
  let static := filter.directives.filter fun d => !d.isDynamic
  let shown := ordered (static ++ dynamic.filter LogDirective.isStatic) ++ ordered dynamic
  String.ofList ([','].intercalate (shown.map LogDirective.text))

/-- The filter of a run: what the environment asks for, if that has a meaning, or else
what the verbosity stands for. -/
def choose (asked : Option String) (verbosity : Verbosity) : LogFilter :=
  match asked.bind ofText? with
  | some filter => filter
  | none => (ofText? verbosity.logFilter).getD ⟨[]⟩

end LogFilter
end Rehearsal
