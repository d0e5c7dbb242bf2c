import Rehearsal.Text.Hex
import Rehearsal.Text.Split
import Rehearsal.Url.Fault

/-!
# Numeric addresses

Addresses of both kinds, read from all the ways in which a URL may write them
and written in one way.
-/

namespace Rehearsal.Url

open Text

/-- The number that digits of a base stand for. -/
def digitsValue? (base : Nat) (s : List Char) : Option Nat := do
  let values ← s.mapM hexValue?
  if values.all fun d => d < base then some (values.foldl (fun n d => n * base + d) 0) else none

namespace Ipv4

/-- A number: hexadecimal after `0x`, octal after a zero, else decimal. -/
def number? (s : List Char) : Option Nat :=
  match s with
  | [] => none
  | '0' :: 'x' :: rest => digitsValue? 16 rest
  | '0' :: 'X' :: rest => digitsValue? 16 rest
  | '0' :: d :: rest => digitsValue? 8 (d :: rest)
  | s => digitsValue? 10 s

/-- The parts of a host, without an empty one at the end. -/
def parts (host : List Char) : List (List Char) :=
  let all := splitAt (fun c => c == '.') host
  if 1 < all.length && all.getLast? == some [] then all.dropLast else all

/-- Whether a host has to be an address: its last part is a number. -/
def isMeant (host : List Char) : Bool :=
  match (parts host).getLast? with
  | none => false
  | some last => (!last.isEmpty && last.all Char.isDigit) || (number? last).isSome

/-- The address of a host. The last of its numbers fills all bytes that are left. -/
def parse (host : List Char) : Except Fault Nat :=
  match (parts host).mapM number? with
  | none => .error .ipv4
  | some numbers =>
    match numbers.reverse with
    | [] => .error .ipv4
    | last :: before =>
      let count := before.length
      if 3 < count || before.any (fun n => 255 < n) || 1 <<< (8 * (4 - count)) ≤ last then .error .ipv4
      else .ok ((before.reverse.foldl (fun n part => n * 256 + part) 0 <<< (8 * (4 - count))) + last)

/-- Four decimal numbers. -/
def text (address : Nat) : List Char :=
  ['.'].intercalate
    ([address >>> 24, (address >>> 16) % 256, (address >>> 8) % 256, address % 256].map fun n =>
      (toString n).toList)

end Ipv4

namespace Ipv6

/-- The last two pieces, when they are written as four decimal bytes. -/
def decimalPieces? (s : List Char) : Option (List Nat) := do
  let byte? (part : List Char) : Option Nat :=
    if part.isEmpty || !part.all Char.isDigit || (part.head? == some '0' && 1 < part.length) then
      none
    else (digitsValue? 10 part).bind fun n => if n < 256 then some n else none
  match ← (splitAt (fun c => c == '.') s).mapM byte? with
  | [a, b, c, d] => some [a * 256 + b, c * 256 + d]
  | _ => none

/-- A piece of one to four digits. -/
def piece? (s : List Char) : Option Nat :=
  if s.isEmpty || 4 < s.length then none else digitsValue? 16 s

/-- Pieces between colons. The last one may be decimal where that is allowed. -/
def pieces? (decimal : Bool) (s : List Char) : Option (List Nat) :=
  if s.isEmpty then some []
  else
    let all := splitAt (fun c => c == ':') s
    match all.getLast? with
    | some last =>
      if decimal && last.contains '.' then do
        return (← all.dropLast.mapM piece?) ++ (← decimalPieces? last)
      else all.mapM piece?
    | none => none

/-- The eight pieces of an address. Two colons stand for at least one piece of zero. -/
def parse (s : List Char) : Except Fault (List Nat) :=
  let found : Option (List Nat) :=
    match after? [':', ':'] s with
    | none => do
      let pieces ← pieces? true s
      if pieces.length = 8 then some pieces else none
    | some right => do
      let left ← pieces? false (s.take (s.length - right.length - 2))
      let right ← pieces? true right
      let count := left.length + right.length
      if count < 8 then some (left ++ List.replicate (8 - count) 0 ++ right) else none
  match found with
  | some pieces => .ok pieces
  | none => .error .ipv6

/-- How many zeros a list begins with. -/
def zeros (pieces : List Nat) : Nat := (pieces.takeWhile fun n => n == 0).length

/-- Where the first of the longest runs of zeros begins, and its length. -/
def longestZeros (pieces : List Nat) : Nat × Nat :=
  (List.range pieces.length).foldl
    (fun best i => if best.2 < zeros (pieces.drop i) then (i, zeros (pieces.drop i)) else best)
    (0, 0)

def piecesText (pieces : List Nat) : List Char :=
  [':'].intercalate (pieces.map fun n => Nat.toDigits 16 n)

/-- The pieces in brackets, with two colons for the first longest run of several zeros. -/
def text (pieces : List Nat) : List Char :=
  let (start, length) := longestZeros pieces
  let inner :=
    if length < 2 then piecesText pieces
    else
      piecesText (pieces.take start) ++ ':' :: ':' :: piecesText (pieces.drop (start + length))
  '[' :: inner ++ [']']

end Ipv6
end Rehearsal.Url
