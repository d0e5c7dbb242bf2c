import Rehearsal.Proofs.Text.Utf8
import Rehearsal.Text.Percent

/-!
# Percent encoding to and fro

Where `%` itself is encoded, decoding gives the bytes of the text back, so that no two
texts are encoded alike. What an encoded text can consist of is said character by
character: `%`, upper-case digits, and characters of the text that may stand as they are.
-/

namespace Rehearsal.Text.Percent

variable {reserved : List Char} {s t : List Char} {c : Char}

theorem decode_encodeByte (b : UInt8) (rest : List Char) :
    decode (encodeByte b ++ rest) = b :: decode rest := by
  have bound : b.toNat < 256 := b.toNat_lt
  have high : hexValue? (hexUpper (b.toNat / 16)) = some (b.toNat / 16) :=
    hexValue?_hexUpper _ (by omega)
  have low : hexValue? (hexUpper (b.toNat % 16)) = some (b.toNat % 16) :=
    hexValue?_hexUpper _ (by omega)
  have whole : b.toNat / 16 * 16 + b.toNat % 16 = b.toNat := by omega
  simp [encodeByte, hexByte, decode, high, low, whole]

theorem decode_encodeBytes (bytes : Bytes) (rest : List Char) :
    decode (bytes.flatMap encodeByte ++ rest) = bytes ++ decode rest := by
  induction bytes with
  | nil => rfl
  | cons b bytes ih =>
    rw [List.flatMap_cons, List.append_assoc, decode_encodeByte, ih, List.cons_append]

/-- A character other than `%` stands for itself. -/
theorem decode_cons_of_ne (h : c ≠ '%') (rest : List Char) :
    decode (c :: rest) = String.utf8EncodeChar c ++ decode rest := by
  rw [decode]
  intro _ _ _ percent
  exact absurd percent h

theorem decode_encodeChar (percent : '%' ∈ reserved) (c : Char) (rest : List Char) :
    decode (encodeChar reserved c ++ rest) = String.utf8EncodeChar c ++ decode rest := by
  rw [encodeChar]
  split
  next => exact decode_encodeBytes _ rest
  next plain =>
    refine decode_cons_of_ne ?_ rest
    rintro rfl
    simp [isEncoded, percent] at plain

/-- Decoding undoes encoding, up to the bytes of the text. -/
theorem decode_encode (percent : '%' ∈ reserved) (s : List Char) :
    decode (encode reserved s) = Utf8.encode s := by
  induction s with
  | nil => rfl
  | cons c s ih => rw [encode_cons, decode_encodeChar percent, ih, Utf8.encode_cons]

/-- No two texts are encoded alike. -/
theorem encode_injective (percent : '%' ∈ reserved) (h : encode reserved s = encode reserved t) :
    s = t := by
  apply Utf8.encode_injective
  rw [← decode_encode percent s, ← decode_encode percent t, h]

/-- A text of characters that may stand as they are is not changed. -/
theorem encode_of_plain (plain : ∀ c ∈ s, isEncoded reserved c = false) :
    encode reserved s = s := by
  induction s with
  | nil => rfl
  | cons c s ih =>
    obtain ⟨first, behind⟩ := List.forall_mem_cons.mp plain
    rw [encode_cons, ih behind, encodeChar, first]
    rfl

theorem mem_encodeByte {b : UInt8} (h : c ∈ encodeByte b) :
    c = '%' ∨ ∃ n < 16, c = hexUpper n := by
  have bound : b.toNat < 256 := b.toNat_lt
  simp only [encodeByte, hexByte, List.mem_cons, List.not_mem_nil, or_false] at h
  obtain rfl | rfl | rfl := h
  · exact .inl rfl
  · exact .inr ⟨_, by omega, rfl⟩
  · exact .inr ⟨_, by omega, rfl⟩

/-- What an encoded text consists of. -/
theorem mem_encode (h : c ∈ encode reserved s) :
    c = '%' ∨ (∃ n < 16, c = hexUpper n) ∨ c ∈ s ∧ isEncoded reserved c = false := by
  obtain ⟨d, inside, written⟩ := List.mem_flatMap.mp h
  rw [encodeChar] at written
  split at written
  next =>
    obtain ⟨b, -, digit⟩ := List.mem_flatMap.mp written
    obtain percent | digit := mem_encodeByte digit
    · exact .inl percent
    · exact .inr (.inl digit)
  next plain =>
    obtain rfl := List.mem_singleton.mp written
    exact .inr (.inr ⟨inside, by simpa using plain⟩)

/-- A character that is no digit, and not `%`, is in an encoded text only if it was there
before and may stand as it is. -/
theorem mem_of_mem_encode (h : c ∈ encode reserved s) (percent : c ≠ '%')
    (digit : ∀ n < 16, c ≠ hexUpper n) : c ∈ s ∧ isEncoded reserved c = false := by
  obtain rfl | ⟨n, bound, rfl⟩ | inside := mem_encode h
  · exact absurd rfl percent
  · exact absurd rfl (digit n bound)
  · exact inside

theorem isEncoded_of_mem (h : c ∈ reserved) : isEncoded reserved c = true := by
  simp [isEncoded, h]

/-- Encoding never makes a text shorter. -/
theorem length_le_length_encode (reserved s : List Char) :
    s.length ≤ (encode reserved s).length := by
  induction s with
  | nil => exact Nat.le_refl 0
  | cons c s ih =>
    have one : 0 < (encodeChar reserved c).length := by
      rw [encodeChar]
      split
      · have bytes := c.utf8Size_pos
        rw [← String.length_utf8EncodeChar] at bytes
        obtain ⟨b, rest, eq⟩ := List.exists_cons_of_length_pos bytes
        simp [eq, encodeByte]
      · exact Nat.one_pos
    rw [encode_cons, List.length_append, List.length_cons]
    omega

end Rehearsal.Text.Percent
