import Rehearsal.Text.Utf8

/-!
# Base64

Three bytes as four symbols of the standard alphabet, a shorter end filled up
with `=`. Decoding accepts only what encoding writes: no other characters, all
of the filling, and no bits left over in the last symbol.
-/

namespace Rehearsal.Base64

open Text

/-- The symbols in the order of their values. -/
def alphabet : List Char :=
  "ABCDEFGHIJKLMNOPQRSTUVWXYZabcdefghijklmnopqrstuvwxyz0123456789+/".toList

/-- The byte that fills up the last group. -/
def pad : UInt8 := 0x3d

/-- The symbol of a value below 64. -/
def symbol (v : Nat) : UInt8 :=
  if v < 26 then UInt8.ofNat (v + 0x41)
  else if v < 52 then UInt8.ofNat (v - 26 + 0x61)
  else if v < 62 then UInt8.ofNat (v - 52 + 0x30)
  else if v = 62 then 0x2b
  else 0x2f

/-- The value of a symbol. -/
def value? (b : UInt8) : Option Nat :=
  let n := b.toNat
  if 0x41 ≤ n && n ≤ 0x5a then some (n - 0x41)
  else if 0x61 ≤ n && n ≤ 0x7a then some (n - 0x61 + 26)
  else if 0x30 ≤ n && n ≤ 0x39 then some (n - 0x30 + 52)
  else if n = 0x2b then some 62
  else if n = 0x2f then some 63
  else none

/-- The symbols of a byte string. -/
def encode : Bytes → Bytes
  | [] => []
  | [a] => [symbol (a.toNat / 4), symbol (a.toNat % 4 * 16), pad, pad]
  | [a, b] =>
    [symbol (a.toNat / 4), symbol (a.toNat % 4 * 16 + b.toNat / 16),
      symbol (b.toNat % 16 * 4), pad]
  | a :: b :: c :: rest =>
    symbol (a.toNat / 4) :: symbol (a.toNat % 4 * 16 + b.toNat / 16) ::
      symbol (b.toNat % 16 * 4 + c.toNat / 64) :: symbol (c.toNat % 64) :: encode rest

/-- Why symbols do not decode. Offsets count bytes from the start. -/
inductive Fault where
  | symbol (b : UInt8) (offset : Nat)
  | length (n : Nat)
  | padding
  | lastSymbol (b : UInt8) (offset : Nat)
  deriving DecidableEq

def Fault.message : Fault → String
  | .symbol b offset => s!"Invalid symbol {b.toNat}, offset {offset}."
  | .length n => s!"Invalid input length: {n}"
  | .padding => "Invalid padding"
  | .lastSymbol b offset => s!"Invalid last symbol {b.toNat}, offset {offset}."

/-- The values of symbols, the first of which stands at `offset`. -/
def values (offset : Nat) : Bytes → Except Fault (List Nat)
  | [] => .ok []
  | b :: rest =>
    match value? b with
    | none => .error (.symbol b offset)
    | some v => (values (offset + 1) rest).map (v :: ·)

/-- The bytes of a group, from two to four values. -/
def groupBytes : List Nat → Bytes
  | [p, q] => [UInt8.ofNat (p * 4 + q / 16)]
  | [p, q, r] => [UInt8.ofNat (p * 4 + q / 16), UInt8.ofNat (q % 16 * 16 + r / 4)]
  | [p, q, r, s] =>
    [UInt8.ofNat (p * 4 + q / 16), UInt8.ofNat (q % 16 * 16 + r / 4),
      UInt8.ofNat (r % 4 * 64 + s)]
  | _ => []

/-- The bits of the last value that belong to no byte. -/
def spareBits : List Nat → Nat
  | [_, q] => q % 16
  | [_, _, r] => r % 4
  | _ => 0

/-- The bytes of the last group, which starts at `offset` and may be filled up. -/
def decodeLast (offset : Nat) (group : Bytes) : Except Fault Bytes := do
  let symbols := group.takeWhile (· != pad)
  let filling := group.dropWhile (· != pad)
  let vs ← values offset symbols
  if !filling.isEmpty && (symbols.length < 2 || filling.any (· != pad)) then
    throw (.symbol pad (offset + symbols.length))
  if group.isEmpty then return []
  if symbols.length < 2 then throw (.length (offset + symbols.length))
  if group.length != 4 then throw .padding
  if spareBits vs != 0 then
    throw (.lastSymbol (symbols.getLast?.getD pad) (offset + symbols.length - 1))
  return groupBytes vs

/-- The bytes of a list of groups. Only the last one may be filled up. -/
def decodeGroups (offset : Nat) : Bytes → Except Fault Bytes
  | a :: b :: c :: d :: e :: rest => do
    let vs ← values offset [a, b, c, d]
    return groupBytes vs ++ (← decodeGroups (offset + 4) (e :: rest))
  | group => decodeLast offset group

/-- The bytes that symbols stand for. One byte too many at the end, such as a line
feed, is told before anything else. -/
def decode (symbols : Bytes) : Except Fault Bytes :=
  match symbols.getLast? with
  | some b =>
    if symbols.length % 4 = 1 && b != pad && (value? b).isNone then
      .error (.symbol b (symbols.length - 1))
    else decodeGroups 0 symbols
  | none => decodeGroups 0 symbols

/-- Values and symbols go to and fro. -/
theorem value?_symbol : ∀ v, v < 64 → value? (symbol v) = some v := by decide

/-- The symbols are those of the alphabet. -/
theorem symbol_alphabet : ∀ v, v < 64 → some (Char.ofNat (symbol v).toNat) = alphabet[v]? := by
  decide

end Rehearsal.Base64
