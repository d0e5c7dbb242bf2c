import Rehearsal.Log.Field
import Rehearsal.Log.Level
import Rehearsal.Text.Blank
import Rehearsal.Text.Letter
import Rehearsal.Text.Utf8

/-!
# Directives of log filters

A directive gives the least level of the log lines that are written: of all, of those of a
target, or of those inside a span. More specific directives win over others.
-/

namespace Rehearsal

open Text

/-- A part of a filter. -/
structure LogDirective where
  target : Option (List Char)
  span : Option (List Char)
  field : Option LogField
  level : LogLevel

namespace LogDirective

/-- A level where leaving it out means every line. -/
def levelOrAll? (s : List Char) : Option LogLevel :=
  if s.isEmpty then some .trace else LogLevel.ofText? s

/-- Whether a directive may begin with a character. -/
def canBegin (c : Char) : Bool := c == '-' || c == ':' || c == '_' || isLetterOrNumber c

/-- The part of a text between two places, counted in bytes. -/
def cut? (s : List Char) (start stop : Nat) : Option (List Char) := do
  Utf8.take? (stop - start) (← Utf8.drop? start s)

/-- What follows the brackets of a span: nothing, or a level. It begins at `place`. -/
def afterSpan? (whole seen : List Char) (place : Nat) : Option LogLevel :=
  match seen with
  | [] => some .trace
  | '=' :: _ => do levelOrAll? (← Utf8.drop? (place + 1) whole)
  | _ => none

/-- A directive on a span, of which the part inside the bracket begins at `place`. -/
def ofSpan? (target : Option (List Char)) (whole seen : List Char) (place : Nat) :
    Option LogDirective := do
  let shown := seen.takeWhile fun c => c != ']' && c != '\x7b'
  let stop := place + Utf8.length shown
  let name ← cut? whole place stop
  match seen.drop shown.length with
  | ']' :: rest => return ⟨target, some name, none, ← afterSpan? whole rest (stop + 1)⟩
  | '\x7b' :: rest =>
    let shown := rest.takeWhile fun c => c != '\x7d'
    let last := stop + 1 + Utf8.length shown
    let field ← LogField.ofText? (← cut? whole (stop + 1) last)
    match rest.drop shown.length with
    | '\x7d' :: ']' :: rest =>
      let level ← afterSpan? whole rest (last + 2)
      return ⟨target, if name.isEmpty then none else some name, some field, level⟩
    | _ => none
  | _ => none

/-- The directive of a text. Its marks are looked for without the blanks at the ends, but
its parts are counted off from the text as it is. -/
def ofText? (whole : List Char) : Option LogDirective :=
  match trim whole with
  | [] => none
  | '[' :: rest => ofSpan? none whole rest 1
  | c :: rest =>
    if !canBegin c then none
    else do
      let more := rest.takeWhile fun c => c != '=' && c != '['
      let stop := Utf8.length (c :: more)
      match rest.drop more.length with
      | '=' :: _ =>
        let level ← levelOrAll? (← Utf8.drop? (stop + 1) whole)
        return ⟨some (← Utf8.take? stop whole), none, none, level⟩
      | '[' :: rest => ofSpan? (some (← Utf8.take? stop whole)) whole rest (stop + 1)
      | _ =>
        match LogLevel.ofText? whole with
        | some level => return ⟨none, none, none, level⟩
        | none => return ⟨some whole, none, none, .trace⟩

/-- Whether a directive can be decided without a span: it names none, and no value. -/
def isStatic (d : LogDirective) : Bool :=
  d.span.isNone && !d.field.any fun field => field.value.isSome

/-- Whether a directive looks at spans. -/
def isDynamic (d : LogDirective) : Bool := d.span.isSome || d.field.isSome

def text (d : LogDirective) : List Char :=
  let field :=
    match d.field with
    | none => []
    | some field => '\x7b' :: field.text ++ ['\x7d']
  let span := if d.isDynamic then '[' :: d.span.getD [] ++ field ++ [']'] else []
  let mark := if d.target.isSome || d.isDynamic then ['='] else []
  d.target.getD [] ++ span ++ mark ++ d.level.name.toList

/-- The order of two things that may be missing, missing ones first. -/
def orderOf {α : Type} (order : α → α → Ordering) : Option α → Option α → Ordering
  | none, none => .eq
  | none, some _ => .lt
  | some _, none => .gt
  | some a, some b => order a b

/-- Which of two directives is more specific: the one with the longer target, with a span,
with a field, and at last the one that is greater as a text. -/
def specificity (a b : LogDirective) : Ordering :=
  (orderOf (fun s t => compare (Utf8.length s) (Utf8.length t)) a.target b.target).then <|
  (compare a.span.isSome.toNat b.span.isSome.toNat).then <|
  (compare a.field.isSome.toNat b.field.isSome.toNat).then <|
  (orderOf Text.order a.target b.target).then <|
  (orderOf Text.order a.span b.span).then <|
  orderOf LogField.order a.field b.field

/-- Puts a directive among others, the more specific ones first. It replaces one that is
equally specific. -/
def insert (d : LogDirective) : List LogDirective → List LogDirective
  | [] => [d]
  | other :: rest =>
    match specificity d other with
    | .gt => d :: other :: rest
    | .eq => d :: rest
    | .lt => other :: insert d rest

end LogDirective
end Rehearsal
