import Rehearsal.Text.Hex
import Rehearsal.Text.Utf8

/-!
# Percent encoding

Characters that may not stand in a place are written byte by byte, each byte as
`%` and two upper-case digits. Controls and everything beyond ASCII are always
written so.
-/

namespace Rehearsal.Text.Percent

/-- Whether a character is encoded where those of `reserved` are. -/
def isEncoded (reserved : List Char) (c : Char) : Bool :=
  c.toNat < 0x20 || 0x7e < c.toNat || reserved.contains c

/-- A byte as `%` and two digits. -/
def encodeByte (b : UInt8) : List Char := '%' :: hexByte hexUpper b

/-- A character, encoded if it has to be. -/
def encodeChar (reserved : List Char) (c : Char) : List Char :=
  if isEncoded reserved c then (String.utf8EncodeChar c).flatMap encodeByte else [c]

/-- A text with the characters of `reserved` encoded. -/
def encode (reserved : List Char) (s : List Char) : List Char := s.flatMap (encodeChar reserved)

/-- The bytes of an encoded text. A `%` that no two digits follow stands for itself. -/
def decode : List Char → Bytes
  | '%' :: high :: low :: rest =>
    match hexValue? high, hexValue? low with
    | some h, some l => UInt8.ofNat (h * 16 + l) :: decode rest
    | _, _ => 0x25 :: decode (high :: low :: rest)
  | c :: rest => String.utf8EncodeChar c ++ decode rest
  | [] => []

@[simp] theorem encode_nil (reserved : List Char) : encode reserved [] = [] := rfl

@[simp] theorem encode_cons (reserved : List Char) (c : Char) (s : List Char) :
    encode reserved (c :: s) = encodeChar reserved c ++ encode reserved s := rfl

end Rehearsal.Text.Percent
