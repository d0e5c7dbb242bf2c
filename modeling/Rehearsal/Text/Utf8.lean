/-!
# UTF-8

Characters as bytes, and bytes as characters. Reading goes one byte at a time:
between characters, or inside one with bounds on the next byte. A byte that
cannot stand where it stands ends the longest beginning of a character before
it, which counts as one damaged place, and is read afresh.
-/

namespace Rehearsal.Text

/-- A byte string. -/
abbrev Bytes := List UInt8

namespace Utf8

/-- The bytes of a text, one to four for each character. -/
def encode (s : List Char) : Bytes := s.flatMap String.utf8EncodeChar

/-- A character of which some bytes have been read: the bits so far, how many
bytes are owed after the next one, and the bounds on the next one. -/
structure Begun where
  bits : Nat
  owed : Nat
  low : Nat
  high : Nat

/-- What the first byte of a character says. -/
inductive Lead where
  | whole (c : Char)
  | begun (b : Begun)
  | damaged

/-- The reading of a byte between characters. The bounds keep out encodings
that are longer than needed, surrogates, and code points above U+10FFFF. -/
def lead (b : UInt8) : Lead :=
  let n := b.toNat
  if n < 0x80 then .whole (Char.ofNat n)
  else if n < 0xc2 then .damaged
  else if n < 0xe0 then .begun ⟨n - 0xc0, 0, 0x80, 0xbf⟩
  else if n = 0xe0 then .begun ⟨0, 1, 0xa0, 0xbf⟩
  else if n = 0xed then .begun ⟨0xd, 1, 0x80, 0x9f⟩
  else if n < 0xf0 then .begun ⟨n - 0xe0, 1, 0x80, 0xbf⟩
  else if n = 0xf0 then .begun ⟨0, 2, 0x90, 0xbf⟩
  else if n < 0xf4 then .begun ⟨n - 0xf0, 2, 0x80, 0xbf⟩
  else if n = 0xf4 then .begun ⟨4, 2, 0x80, 0x8f⟩
  else .damaged

/-- The characters of a byte string, with `none` for each damaged place. The
first argument is the character that the bytes before have begun. -/
def scan : Option Begun → Bytes → List (Option Char)
  | none, [] => []
  | some _, [] => [none]
  | none, b :: rest =>
    match lead b with
    | .whole c => some c :: scan none rest
    | .begun p => scan (some p) rest
    | .damaged => none :: scan none rest
  | some p, b :: rest =>
    if p.low ≤ b.toNat && b.toNat ≤ p.high then
      let bits := p.bits * 64 + b.toNat % 64
      match p.owed with
      | 0 => some (Char.ofNat bits) :: scan none rest
      | owed + 1 => scan (some ⟨bits, owed, 0x80, 0xbf⟩) rest
    else
      none ::
        match lead b with
        | .whole c => some c :: scan none rest
        | .begun q => scan (some q) rest
        | .damaged => none :: scan none rest

/-- The text whose bytes these are, if there is one. -/
def decode? (bytes : Bytes) : Option (List Char) := (scan none bytes).mapM id

/-- The text of the bytes, with U+FFFD for each damaged place. -/
def decodeLossy (bytes : Bytes) : List Char :=
  (scan none bytes).map fun c => c.getD (Char.ofNat 0xfffd)

/-- The number of bytes of a text. -/
def length (s : List Char) : Nat := (s.map Char.utf8Size).foldr (· + ·) 0

/-- The text of the first `n` bytes, if no character is cut. -/
def take? : (n : Nat) → List Char → Option (List Char)
  | 0, _ => some []
  | _ + 1, [] => none
  | n + 1, c :: rest =>
    if c.utf8Size ≤ n + 1 then (take? (n + 1 - c.utf8Size) rest).map (c :: ·) else none

/-- The text behind the first `n` bytes, if no character is cut. -/
def drop? : (n : Nat) → List Char → Option (List Char)
  | 0, s => some s
  | _ + 1, [] => none
  | n + 1, c :: rest =>
    if c.utf8Size ≤ n + 1 then drop? (n + 1 - c.utf8Size) rest else none

@[simp] theorem encode_nil : encode [] = [] := rfl

@[simp] theorem encode_cons (c : Char) (s : List Char) :
    encode (c :: s) = String.utf8EncodeChar c ++ encode s := rfl

@[simp] theorem encode_append (s t : List Char) : encode (s ++ t) = encode s ++ encode t :=
  List.flatMap_append

@[simp] theorem length_nil : length [] = 0 := rfl

@[simp] theorem length_cons (c : Char) (s : List Char) :
    length (c :: s) = c.utf8Size + length s := by simp [length]

end Utf8
end Rehearsal.Text
