/-!
# Hexadecimal digits

Digits in both cases, and the value of a digit of either.
-/

namespace Rehearsal.Text

/-- The lower-case digit for a value below sixteen. -/
def hexLower (n : Nat) : Char := Char.ofNat (if n < 10 then 0x30 + n else 0x57 + n)

/-- The upper-case digit for a value below sixteen. -/
def hexUpper (n : Nat) : Char := Char.ofNat (if n < 10 then 0x30 + n else 0x37 + n)

/-- The value of a hexadecimal digit of either case. -/
def hexValue? (c : Char) : Option Nat :=
  let n := c.toNat
  if 0x30 ≤ n && n ≤ 0x39 then some (n - 0x30)
  else if 0x61 ≤ n && n ≤ 0x66 then some (n - 0x57)
  else if 0x41 ≤ n && n ≤ 0x46 then some (n - 0x37)
  else none

/-- The value of a decimal digit. -/
def digitValue? (c : Char) : Option Nat :=
  if 0x30 ≤ c.toNat && c.toNat ≤ 0x39 then some (c.toNat - 0x30) else none

/-- Two digits for a byte. -/
def hexByte (digit : Nat → Char) (b : UInt8) : List Char :=
  [digit (b.toNat / 16), digit (b.toNat % 16)]

/-- The lower-case hexadecimal text of a byte string. -/
def hexText (bytes : List UInt8) : List Char := bytes.flatMap (hexByte hexLower)

/-- The bytes of a text of pairs of hexadecimal digits. -/
def hexBytes? : List Char → Option (List UInt8)
  | [] => some []
  | [_] => none
  | high :: low :: rest => do
    let h ← hexValue? high
    let l ← hexValue? low
    return UInt8.ofNat (h * 16 + l) :: (← hexBytes? rest)

theorem hexValue?_hexLower : ∀ n, n < 16 → hexValue? (hexLower n) = some n := by decide

theorem hexValue?_hexUpper : ∀ n, n < 16 → hexValue? (hexUpper n) = some n := by decide

end Rehearsal.Text
