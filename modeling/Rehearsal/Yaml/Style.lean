import Rehearsal.Text.Utf8
import Rehearsal.Yaml.Plain

/-!
# The four ways to write a string

A string may be written plain, between single or double quotes, or literally,
with each of its lines on a line of its own. What a string holds decides which
ways are open. The last resort, double quotes, is open for every string.
-/

namespace Rehearsal.Yaml

open Text

/-- The characters that end a line. -/
def isBreak (c : Char) : Bool :=
  c == '\n' || c == '\r' || c.toNat == 0x85 || c.toNat == 0x2028 || c.toNat == 0x2029

/-- The characters that separate the parts of a line. -/
def isGap (c : Char) : Bool := c == ' ' || c == '\t'

/-- The characters that are written as they are: all but controls, tabs, surrogates, the
byte order mark and two code points that are no characters. -/
def isPrintable (c : Char) : Bool :=
  let n := c.toNat
  c == '\n' || (0x20 ≤ n && n ≤ 0x7e) ||
    (0xa0 ≤ n && n != 0xfeff && n != 0xfffe && n != 0xffff)

/-- The characters with which no plain string starts. -/
def isIndicator (c : Char) : Bool :=
  [',', '[', ']', '\x7b', '\x7d', '#', '&', '*', '!', '|', '>', '\'', '"', '%', '@',
    Char.ofNat 0x60].contains c

/-- Tells whether the text, which follows a character, starts with a gap or a break or is at
an end. -/
def isSeparated : List Char → Bool
  | [] => true
  | c :: _ => isGap c || isBreak c || c == '\x00'

/-- Tells whether two neighbours, the first of one kind and the second of another, occur. -/
def hasPair (first second : Char → Bool) : List Char → Bool
  | a :: b :: rest => first a && second b || hasPair first second (b :: rest)
  | _ => false

/-- Tells whether a text, after its first character, holds a colon before a gap or a mark of
a comment after one. -/
def hasMark : List Char → Bool
  | a :: b :: rest =>
    (b == ':' && isSeparated rest) || (b == '#' && isSeparated [a]) || hasMark (b :: rest)
  | _ => false

/-- Tells whether the start of a text has a meaning of its own. -/
def startsWithMark (s : List Char) : Bool :=
  ['-', '-', '-'].isPrefixOf s || ['.', '.', '.'].isPrefixOf s ||
    match s with
    | [] => false
    | c :: rest => isIndicator c || ((c == '-' || c == '?' || c == ':') && isSeparated rest)

/-- A string without lines of its own, whose marks and ends mean nothing, may be plain. -/
def mayBePlain (s : List Char) : Bool :=
  s.all (fun c => isPrintable c && !isBreak c) && s.head? != some ' ' && s.getLast? != some ' ' &&
    !startsWithMark s && !hasMark s

/-- Single quotes keep everything but controls and spaces beside a break. -/
def maySingle (s : List Char) : Bool :=
  s.all isPrintable && !hasPair isBreak (· == ' ') s && !hasPair (· == ' ') isBreak s

/-- Lines keep everything but controls, spaces before a break and a space at the end. -/
def mayBeLiteral (s : List Char) : Bool :=
  s.all isPrintable && !hasPair (· == ' ') isBreak s && s.getLast? != some ' '

/-- How a string is written. -/
inductive Style where
  | plain
  | single
  | double
  | literal
  deriving DecidableEq

/-- The style of a string: literal for several lines, plain if nothing else could be meant,
and quotes otherwise. -/
def Style.of (s : List Char) : Style :=
  if s.contains '\n' then if mayBeLiteral s then .literal else .double
  else if !isAmbiguous s && mayBePlain s then .plain
  else if maySingle s then .single
  else .double

/-- The lines of a text, where `indent` spaces come before each that is not empty. `fresh`
tells whether a line begins. -/
def indented (indent : Nat) (fresh : Bool) : List Char → List Char
  | [] => []
  | c :: rest =>
    if isBreak c then c :: indented indent true rest
    else (if fresh then List.replicate indent ' ' else []) ++ c :: indented indent false rest

/-- The end of a single-quoted string: after a break the quote has a place on its line. -/
def closing (indent : Nat) (s : List Char) : List Char :=
  if s.getLast?.any isBreak then List.replicate indent ' ' ++ ['\''] else ['\'']

/-- A string between single quotes, which are doubled in it. -/
def singleQuoted (indent : Nat) (s : List Char) : List Char :=
  let doubled := s.flatMap fun c => if c == '\'' then ['\'', '\''] else [c]
  '\'' :: indented indent false doubled ++ closing indent s

/-- An upper-case number of a given width. -/
def hexNumber (width n : Nat) : List Char :=
  (List.range width).reverse.map fun i => hexUpper ((n >>> (4 * i)) % 16)

/-- A character between double quotes. -/
def escaped (c : Char) : List Char :=
  match c with
  | '\x00' => ['\\', '0']
  | '\x07' => ['\\', 'a']
  | '\x08' => ['\\', 'b']
  | '\x09' => ['\\', 't']
  | '\x0a' => ['\\', 'n']
  | '\x0b' => ['\\', 'v']
  | '\x0c' => ['\\', 'f']
  | '\x0d' => ['\\', 'r']
  | '\x1b' => ['\\', 'e']
  | '"' => ['\\', '"']
  | '\\' => ['\\', '\\']
  | '\u0085' => ['\\', 'N']
  | '\u2028' => ['\\', 'L']
  | '\u2029' => ['\\', 'P']
  | c =>
    let n := c.toNat
    if isPrintable c then [c]
    else if n ≤ 0xff then '\\' :: 'x' :: hexNumber 2 n
    else if n ≤ 0xffff then '\\' :: 'u' :: hexNumber 4 n
    else '\\' :: 'U' :: hexNumber 8 n

/-- A string between double quotes. -/
def doubleQuoted (s : List Char) : List Char := '"' :: s.flatMap escaped ++ ['"']

/-- What stands after the bar of a literal string: the indentation, if the first line does not
show it, and what the breaks at the end amount to. -/
def literalHeader (s : List Char) : List Char :=
  let start := if s.head?.any fun c => c == ' ' || isBreak c then ['2'] else []
  let ending :=
    match s.reverse with
    | last :: before =>
      if !isBreak last then ['-']
      else if before.head?.all isBreak then ['+']
      else []
    | [] => ['-']
  start ++ ending

/-- A string on lines of its own, after a bar. -/
def literal (indent : Nat) (s : List Char) : List Char :=
  '|' :: literalHeader s ++ '\n' :: indented indent true s

/-- The text of a string, the lines of which are indented by `indent`. -/
def string (indent : Nat) (s : List Char) : List Char :=
  match Style.of s with
  | .plain => s
  | .single => singleQuoted indent s
  | .double => doubleQuoted s
  | .literal => literal indent s

end Rehearsal.Yaml
