import Rehearsal.Number.Binary64
import Rehearsal.Text.Blank
import Rehearsal.Text.Hex
import Rehearsal.Text.Utf8
import Rehearsal.Time.Calendar

/-!
# Instants

Moments in universal time, down to the nanosecond, with their text after RFC
3339. A leap second belongs to the second before it, with nanoseconds from one
milliard on. Reading is more generous than writing: blanks between the parts,
small letters, a space for the `T`, and any offset are accepted.
-/

namespace Rehearsal

/-- A moment: the day since the first of January 1970, the second of that day, and
the nanosecond of that second. -/
structure Instant where
  day : Int
  second : Nat
  nano : Nat
  deriving DecidableEq, Repr

namespace Instant

open Text

/-- The nanoseconds of a second that is not a leap second. -/
def nanosPerSecond : Nat := 1000000000

/-- Why a text is not an instant. -/
inductive Refusal where
  | outOfRange
  | impossible
  | invalid
  | tooShort
  | tooLong
  deriving DecidableEq, Repr

def Refusal.message : Refusal → String
  | .outOfRange => "input is out of range"
  | .impossible => "no possible date and time matching input"
  | .invalid => "input contains invalid characters"
  | .tooShort => "premature end of input"
  | .tooLong => "trailing input"

/-- At most `width` digits, and at least one. -/
def digits (width : Nat) (cs : List Char) : Except Refusal (Nat × List Char) :=
  match cs with
  | [] => .error .tooShort
  | c :: _ =>
    if c.isDigit then
      let taken := (cs.takeWhile Char.isDigit).take width
      .ok (taken.foldl (fun n d => n * 10 + (d.toNat - 0x30)) 0, cs.drop taken.length)
    else .error .invalid

/-- A number of at most two digits within bounds, after blanks. -/
def twoDigits (low high : Nat) (cs : List Char) : Except Refusal (Nat × List Char) := do
  let (n, rest) ← digits 2 (trimStart cs)
  if low ≤ n && n ≤ high then return (n, rest) else .error .outOfRange

/-- A year: four digits at most, or any number of them after a sign. -/
def year (cs : List Char) : Except Refusal (Int × List Char) := do
  let bounded (n : Int) (rest : List Char) : Except Refusal (Int × List Char) :=
    if -2147483648 ≤ n && n < 2147483648 then .ok (n, rest) else .error .outOfRange
  match trimStart cs with
  | '-' :: rest =>
    let (n, rest) ← digits rest.length rest
    bounded (-n) rest
  | '+' :: rest =>
    let (n, rest) ← digits rest.length rest
    bounded n rest
  | cs =>
    let (n, rest) ← digits 4 cs
    return (n, rest)

/-- A mark that has to stand here, after blanks. -/
def mark (m : Char) (cs : List Char) : Except Refusal (List Char) :=
  match trimStart cs with
  | [] => .error .tooShort
  | c :: rest => if c = m then .ok rest else .error .invalid

/-- A fraction of a second in nanoseconds, if a point stands here. Digits after the
ninth are passed over. -/
def fractionOfSecond : List Char → Except Refusal (Nat × List Char)
  | '.' :: cs => do
    let (n, rest) ← digits 9 cs
    let count := cs.length - rest.length
    return (n * Nat.pow 10 (9 - count), rest.dropWhile Char.isDigit)
  | cs => .ok (0, cs)

/-- Two digits of an offset, by value. -/
def offsetPair (cs : List Char) : Except Refusal (Option (Nat × Nat) × List Char) :=
  match cs with
  | a :: b :: rest =>
    match digitValue? a, digitValue? b with
    | some a, some b => .ok (some (a, b), rest)
    | _, _ => .ok (none, rest)
  | _ => if Utf8.length cs < 2 then .error .tooShort else .ok (none, [])

/-- The hours and minutes of an offset after its sign, in seconds. -/
def offsetSize (cs : List Char) : Except Refusal (Nat × List Char) := do
  let (hours, rest) ← offsetPair cs
  match hours with
  | none => .error .invalid
  | some (a, b) =>
    let (minutes, rest) ← offsetPair (rest.dropWhile fun c => c == ':' || isBlank c)
    match minutes with
    | none => .error .invalid
    | some (c, d) =>
      if c ≤ 5 then return ((a * 10 + b) * 3600 + (c * 10 + d) * 60, rest)
      else .error .outOfRange

/-- An offset from universal time in seconds: `Z`, `UTC`, or a sign with hours and
minutes. -/
def offset (cs : List Char) : Except Refusal (Int × List Char) := do
  match trimStart cs with
  | [] => .error .tooShort
  | c :: rest =>
    match ((c :: rest).take 3).map Char.toUpper, c with
    | ['U', 'T', 'C'], _ => return (0, rest.drop 2)
    | _, 'Z' => return (0, rest)
    | _, 'z' => return (0, rest)
    | _, '+' =>
      let (n, rest) ← offsetSize rest
      return (n, rest)
    | _, '-' =>
      let (n, rest) ← offsetSize rest
      return (-n, rest)
    | _, '\u2212' =>
      let (n, rest) ← offsetSize rest
      return (-n, rest)
    | _, _ => .error .invalid

/-- The instant that a clock shows when it is `shift` seconds ahead of universal time. -/
def ofLocal (date : Date) (second nano : Nat) (shift : Int) : Except Refusal Instant :=
  if !date.isValid || date.year < Date.minYear || Date.maxYear < date.year then
    .error .outOfRange
  else if shift ≤ -86400 || 86400 ≤ shift then .error .outOfRange
  else
    let total := (second : Int) - shift
    let day := date.toDays + total / 86400
    if day < Date.toDays ⟨Date.minYear, 1, 1⟩ || Date.toDays ⟨Date.maxYear, 12, 31⟩ < day then
      .error .impossible
    else .ok ⟨day, (total % 86400).toNat, nano⟩

/-- The instant of a text. -/
def parse (text : List Char) : Except Refusal Instant := do
  let (year, cs) ← year text
  let (month, cs) ← twoDigits 1 12 (← mark '-' cs)
  let (day, cs) ← twoDigits 1 31 (← mark '-' cs)
  let cs ←
    match cs with
    | [] => throw .tooShort
    | c :: rest => if c = 'T' || c = 't' || c = ' ' then pure rest else throw .invalid
  let (hour, cs) ← twoDigits 0 23 cs
  let (minute, cs) ← twoDigits 0 59 (← mark ':' cs)
  let (second, cs) ← twoDigits 0 60 (← mark ':' cs)
  let (nano, cs) ← fractionOfSecond cs
  let (shift, cs) ← offset cs
  if !(trimStart cs).isEmpty then throw .tooLong
  -- the sixtieth second is the fifty-ninth with more than a milliard nanoseconds
  let leap := second == 60
  let seconds := hour * 3600 + minute * 60 + (if leap then 59 else second)
  ofLocal ⟨year, month, day⟩ seconds (if leap then nano + nanosPerSecond else nano) shift

/-- Digits with zeros in front up to a width. -/
def padded (width n : Nat) : List Char :=
  let digits := (toString n).toList
  List.replicate (width - digits.length) '0' ++ digits

/-- A year: four digits, or a sign and at least four digits outside 0 to 9999. -/
def yearText (year : Int) : List Char :=
  if year < 0 then '-' :: padded 4 year.natAbs
  else if 9999 < year then '+' :: padded 4 year.natAbs
  else padded 4 year.natAbs

/-- A fraction of a second with as many groups of three digits as it needs. -/
def fractionText (nano : Nat) : List Char :=
  if nano = 0 then []
  else if nano % 1000000 = 0 then '.' :: padded 3 (nano / 1000000)
  else if nano % 1000 = 0 then '.' :: padded 6 (nano / 1000)
  else '.' :: padded 9 nano

/-- The text of an instant, in universal time. -/
def text (t : Instant) : List Char :=
  let date := Date.ofDays t.day
  let leap := nanosPerSecond ≤ t.nano
  let second := t.second % 60 + (if leap then 1 else 0)
  let nano := if leap then t.nano - nanosPerSecond else t.nano
  yearText date.year ++ '-' :: padded 2 date.month ++ '-' :: padded 2 date.day ++
    'T' :: padded 2 (t.second / 3600) ++ ':' :: padded 2 (t.second / 60 % 60) ++
    ':' :: padded 2 second ++ fractionText nano ++ ['Z']

/-- The nanoseconds from one instant to another. A leap second counts for those that
lie on different sides of it on one day's clock. -/
def nanosUntil (start finish : Instant) : Int :=
  let seconds : Int := (finish.second : Int) - start.second
  let seconds :=
    if start.second < finish.second && nanosPerSecond ≤ start.nano then seconds + 1
    else if finish.second < start.second && nanosPerSecond ≤ finish.nano then seconds - 1
    else seconds
  ((finish.day - start.day) * 86400 + seconds) * nanosPerSecond + ((finish.nano : Int) - start.nano)

/-- The whole milliseconds from one instant to another, toward zero. -/
def millisUntil (start finish : Instant) : Int := (nanosUntil start finish).tdiv 1000000

end Instant
end Rehearsal
