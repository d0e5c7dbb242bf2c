import Mathlib.Data.String.Basic
import Rehearsal.Text.Utf8

/-!
# UTF-8 to and fro

A first byte says what it takes to complete its character, and what completes it is
what the encoding of the character goes on with. From that one character at a time,
then along the text: reading and writing are inverse, and a byte string can be read
exactly if it is valid in the sense of the strings of Lean.
-/

namespace Rehearsal.Text.Utf8

/-- A text is read exactly if no place is damaged. -/
theorem decode?_eq_some_iff_scan {bytes : Bytes} {s : List Char} :
    decode? bytes = some s ↔ scan none bytes = s.map some := by
  rw [decode?]
  generalize scan none bytes = places
  induction places generalizing s with
  | nil => cases s <;> simp
  | cons place places ih =>
    rw [List.mapM_cons]
    cases place with
    | none => cases s <;> simp
    | some c =>
      simp only [id_eq, Option.pure_def, Option.bind_eq_bind, Option.bind_some,
        Option.bind_eq_some_iff, ih]
      cases s <;> grind

/-- The bytes that complete a begun character, and the code point they make it. -/
inductive Begun.Completes : Begun → Bytes → Nat → Prop
  | last {bits low high : Nat} {b : UInt8} (above : low ≤ b.toNat) (below : b.toNat ≤ high) :
      Completes ⟨bits, 0, low, high⟩ [b] (bits * 64 + b.toNat % 64)
  | more {bits owed low high n : Nat} {b : UInt8} {tail : Bytes} (above : low ≤ b.toNat)
      (below : b.toNat ≤ high)
      (rest : Completes ⟨bits * 64 + b.toNat % 64, owed, 0x80, 0xbf⟩ tail n) :
      Completes ⟨bits, owed + 1, low, high⟩ (b :: tail) n

theorem Begun.Completes.of_zero {bits low high n : Nat} {tail : Bytes}
    (h : Completes ⟨bits, 0, low, high⟩ tail n) :
    ∃ z, tail = [z] ∧ low ≤ z.toNat ∧ z.toNat ≤ high ∧ bits * 64 + z.toNat % 64 = n := by
  cases h with
  | last above below => exact ⟨_, rfl, above, below, rfl⟩

theorem Begun.Completes.of_succ {bits owed low high n : Nat} {tail : Bytes}
    (h : Completes ⟨bits, owed + 1, low, high⟩ tail n) :
    ∃ y rest, tail = y :: rest ∧ low ≤ y.toNat ∧ y.toNat ≤ high ∧
      Completes ⟨bits * 64 + y.toNat % 64, owed, 0x80, 0xbf⟩ rest n := by
  cases h with
  | more above below rest => exact ⟨_, _, rfl, above, below, rest⟩

/-- What completes a begun character is read as that character. -/
theorem scan_of_completes {p : Begun} {tail : Bytes} {n : Nat} (h : p.Completes tail n)
    (rest : Bytes) : scan (some p) (tail ++ rest) = some (Char.ofNat n) :: scan none rest := by
  induction h with
  | last above below => simp [scan, above, below]
  | more above below _ ih => simpa [scan, above, below] using ih

/-- Where nothing is damaged, a begun character is completed. -/
theorem completes_of_scan {p : Begun} {bytes : Bytes} {s : List Char}
    (h : scan (some p) bytes = s.map some) :
    ∃ tail rest n t, bytes = tail ++ rest ∧ p.Completes tail n ∧ s = Char.ofNat n :: t ∧
      scan none rest = t.map some := by
  induction bytes generalizing p with
  | nil => cases s <;> simp [scan] at h
  | cons b rest ih =>
    obtain ⟨bits, owed, low, high⟩ := p
    rw [scan] at h
    split at h
    next bounds =>
      obtain ⟨above, below⟩ : low ≤ b.toNat ∧ b.toNat ≤ high := by simpa using bounds
      cases owed with
      | zero =>
        obtain _ | ⟨c, t⟩ := s
        · simp at h
        obtain ⟨rfl, read⟩ : Char.ofNat (bits * 64 + b.toNat % 64) = c ∧
            scan none rest = t.map some := by simpa using h
        exact ⟨[b], rest, _, t, rfl, .last above below, rfl, read⟩
      | succ owed =>
        obtain ⟨tail, rest, n, t, rfl, completes, rfl, read⟩ := ih h
        exact ⟨b :: tail, rest, n, t, rfl, .more above below completes, rfl, read⟩
    next => cases s <;> simp at h

section Lead

variable {b : UInt8}

theorem lead_of_ascii (h : b.toNat < 0x80) : lead b = .whole (Char.ofNat b.toNat) := by
  rw [lead]
  exact if_pos h

/-- The lead of two bytes. -/
theorem lead_of_two (above : 0xc2 ≤ b.toNat) (below : b.toNat < 0xe0) :
    lead b = .begun ⟨b.toNat - 0xc0, 0, 0x80, 0xbf⟩ := by
  rw [lead, if_neg (by omega), if_neg (by omega), if_pos below]

/-- The lead of three bytes. The second one must not make the code point too small, nor
a surrogate. -/
theorem lead_of_three (above : 0xe0 ≤ b.toNat) (below : b.toNat < 0xf0) :
    lead b = .begun ⟨b.toNat - 0xe0, 1, if b.toNat = 0xe0 then 0xa0 else 0x80,
      if b.toNat = 0xed then 0x9f else 0xbf⟩ := by
  rw [lead]
  grind

/-- The lead of four bytes. The second one must not make the code point too small, nor
too large. -/
theorem lead_of_four (above : 0xf0 ≤ b.toNat) (below : b.toNat < 0xf5) :
    lead b = .begun ⟨b.toNat - 0xf0, 2, if b.toNat = 0xf0 then 0x90 else 0x80,
      if b.toNat = 0xf4 then 0x8f else 0xbf⟩ := by
  rw [lead]
  grind

/-- The leads that a first byte can have. -/
theorem lead_cases (b : UInt8) :
    b.toNat < 0x80 ∨ lead b = .damaged ∨ 0xc2 ≤ b.toNat ∧ b.toNat < 0xe0 ∨
      0xe0 ≤ b.toNat ∧ b.toNat < 0xf0 ∨ 0xf0 ≤ b.toNat ∧ b.toNat < 0xf5 := by
  have damaged : b.toNat < 0xc2 ∨ 0xf5 ≤ b.toNat → 0x80 ≤ b.toNat → lead b = .damaged := by
    intro outside above
    rw [lead]
    grind
  by_cases low : b.toNat < 0x80
  · exact .inl low
  by_cases outside : b.toNat < 0xc2 ∨ 0xf5 ≤ b.toNat
  · exact .inr (.inl (damaged outside (by omega)))
  · omega

theorem ascii_of_lead {c : Char} (h : lead b = .whole c) :
    b.toNat < 0x80 ∧ Char.ofNat b.toNat = c := by
  obtain ascii | damaged | ⟨above, below⟩ | ⟨above, below⟩ | ⟨above, below⟩ := lead_cases b
  · rw [lead_of_ascii ascii] at h
    exact ⟨ascii, Lead.whole.inj h⟩
  · rw [damaged] at h
    nomatch h
  · rw [lead_of_two above below] at h
    nomatch h
  · rw [lead_of_three above below] at h
    nomatch h
  · rw [lead_of_four above below] at h
    nomatch h

end Lead

section Encode

variable {c : Char}

theorem toNat_ofNat {n : Nat} (h : n.isValidChar) : (Char.ofNat n).toNat = n := by
  rw [Char.ofNat, dif_pos h]
  rfl

theorem encodeChar_of_ascii (below : c.toNat < 0x80) :
    String.utf8EncodeChar c = [UInt8.ofNat c.toNat] := by
  rw [String.utf8EncodeChar, Char.toNat_val, if_pos (by omega)]

/-- A byte below 128 is a character of its own. -/
theorem encodeChar_byte {b : UInt8} (ascii : b.toNat < 0x80) :
    String.utf8EncodeChar (Char.ofNat b.toNat) = [b] := by
  have same : (Char.ofNat b.toNat).toNat = b.toNat := toNat_ofNat (.inl (by omega))
  rw [encodeChar_of_ascii (by omega), same, UInt8.ofNat_toNat]

theorem encodeChar_of_two (above : 0x80 ≤ c.toNat) (below : c.toNat < 0x800) :
    String.utf8EncodeChar c =
      [UInt8.ofNat (c.toNat / 64 + 0xc0), UInt8.ofNat (c.toNat % 64 + 0x80)] := by
  have bits : c.toNat / 64 % 0x20 = c.toNat / 64 := Nat.mod_eq_of_lt (by omega)
  rw [String.utf8EncodeChar, Char.toNat_val, if_neg (by omega), if_pos (by omega), bits]

theorem encodeChar_of_three (above : 0x800 ≤ c.toNat) (below : c.toNat < 0x10000) :
    String.utf8EncodeChar c =
      [UInt8.ofNat (c.toNat / 4096 + 0xe0), UInt8.ofNat (c.toNat / 64 % 64 + 0x80),
        UInt8.ofNat (c.toNat % 64 + 0x80)] := by
  have bits : c.toNat / 4096 % 0x10 = c.toNat / 4096 := Nat.mod_eq_of_lt (by omega)
  rw [String.utf8EncodeChar, Char.toNat_val, if_neg (by omega), if_neg (by omega),
    if_pos (by omega), bits]

theorem encodeChar_of_four (above : 0x10000 ≤ c.toNat) :
    String.utf8EncodeChar c =
      [UInt8.ofNat (c.toNat / 262144 + 0xf0), UInt8.ofNat (c.toNat / 4096 % 64 + 0x80),
        UInt8.ofNat (c.toNat / 64 % 64 + 0x80), UInt8.ofNat (c.toNat % 64 + 0x80)] := by
  have bits : c.toNat / 262144 % 0x08 = c.toNat / 262144 :=
    Nat.mod_eq_of_lt (by have valid : c.toNat.isValidChar := c.valid; omega)
  rw [String.utf8EncodeChar, Char.toNat_val, if_neg (by omega), if_neg (by omega),
    if_neg (by omega), bits]

theorem exists_byte (n : Nat) (h : n < 256) : ∃ b : UInt8, UInt8.ofNat n = b ∧ b.toNat = n :=
  ⟨_, rfl, UInt8.toNat_ofNat_of_lt' h⟩

/-- The bytes of a character are a lead and what completes it. -/
theorem begun_of_char (above : 0x80 ≤ c.toNat) :
    ∃ b tail p, String.utf8EncodeChar c = b :: tail ∧ lead b = .begun p ∧
      p.Completes tail c.toNat := by
  have valid : c.toNat.isValidChar := c.valid
  obtain ⟨z, hz, z_eq⟩ := exists_byte (c.toNat % 64 + 0x80) (by omega)
  obtain ⟨y, hy, y_eq⟩ := exists_byte (c.toNat / 64 % 64 + 0x80) (by omega)
  obtain ⟨x, hx, x_eq⟩ := exists_byte (c.toNat / 4096 % 64 + 0x80) (by omega)
  by_cases two : c.toNat < 0x800
  · obtain ⟨b, hb, b_eq⟩ := exists_byte (c.toNat / 64 + 0xc0) (by omega)
    rw [encodeChar_of_two above two, hb, hz]
    refine ⟨b, _, _, rfl, lead_of_two (by omega) (by omega), ?_⟩
    have code : (b.toNat - 0xc0) * 64 + z.toNat % 64 = c.toNat := by omega
    rw [← code]
    exact .last (by omega) (by omega)
  by_cases three : c.toNat < 0x10000
  · obtain ⟨b, hb, b_eq⟩ := exists_byte (c.toNat / 4096 + 0xe0) (by omega)
    rw [encodeChar_of_three (by omega) three, hb, hy, hz]
    refine ⟨b, _, _, rfl, lead_of_three (by omega) (by omega), ?_⟩
    have code : ((b.toNat - 0xe0) * 64 + y.toNat % 64) * 64 + z.toNat % 64 = c.toNat := by omega
    rw [← code]
    refine .more ?_ ?_ (.last (by omega) (by omega)) <;> split <;> omega
  · obtain ⟨b, hb, b_eq⟩ := exists_byte (c.toNat / 262144 + 0xf0) (by omega)
    rw [encodeChar_of_four (by omega), hb, hx, hy, hz]
    refine ⟨b, _, _, rfl, lead_of_four (by omega) (by omega), ?_⟩
    have code : (((b.toNat - 0xf0) * 64 + x.toNat % 64) * 64 + y.toNat % 64) * 64 +
        z.toNat % 64 = c.toNat := by omega
    rw [← code]
    refine .more ?_ ?_ (.more (by omega) (by omega) (.last (by omega) (by omega))) <;>
      split <;> omega

/-- The first byte of a character, and no other, is none of those in the middle. -/
theorem encodeChar_eq_cons (c : Char) :
    ∃ b tail, String.utf8EncodeChar c = b :: tail ∧ (b.toNat < 0x80 ∨ 0xc0 ≤ b.toNat) ∧
      ∀ x ∈ tail, 0x80 ≤ x.toNat ∧ x.toNat < 0xc0 := by
  have valid : c.toNat.isValidChar := c.valid
  obtain ⟨z, hz, z_eq⟩ := exists_byte (c.toNat % 64 + 0x80) (by omega)
  obtain ⟨y, hy, y_eq⟩ := exists_byte (c.toNat / 64 % 64 + 0x80) (by omega)
  obtain ⟨x, hx, x_eq⟩ := exists_byte (c.toNat / 4096 % 64 + 0x80) (by omega)
  by_cases ascii : c.toNat < 0x80
  · obtain ⟨b, hb, b_eq⟩ := exists_byte c.toNat (by omega)
    rw [encodeChar_of_ascii ascii, hb]
    exact ⟨b, [], rfl, by omega, by simp⟩
  by_cases two : c.toNat < 0x800
  · obtain ⟨b, hb, b_eq⟩ := exists_byte (c.toNat / 64 + 0xc0) (by omega)
    rw [encodeChar_of_two (by omega) two, hb, hz]
    exact ⟨b, [z], rfl, by omega, by simp; omega⟩
  by_cases three : c.toNat < 0x10000
  · obtain ⟨b, hb, b_eq⟩ := exists_byte (c.toNat / 4096 + 0xe0) (by omega)
    rw [encodeChar_of_three (by omega) three, hb, hy, hz]
    exact ⟨b, [y, z], rfl, by omega, by simp; omega⟩
  · obtain ⟨b, hb, b_eq⟩ := exists_byte (c.toNat / 262144 + 0xf0) (by omega)
    rw [encodeChar_of_four (by omega), hb, hx, hy, hz]
    exact ⟨b, [x, y, z], rfl, by omega, by simp; omega⟩

theorem ofNat_eq {n : Nat} {b : UInt8} (h : n = b.toNat) : UInt8.ofNat n = b := by
  rw [h, UInt8.ofNat_toNat]

/-- A lead and what completes it are the bytes of a character. -/
theorem encodeChar_of_completes {b : UInt8} {p : Begun} {tail : Bytes} {n : Nat}
    (begun : lead b = .begun p) (completes : p.Completes tail n) :
    String.utf8EncodeChar (Char.ofNat n) = b :: tail := by
  obtain ascii | damaged | ⟨above, below⟩ | ⟨above, below⟩ | ⟨above, below⟩ := lead_cases b
  · rw [lead_of_ascii ascii] at begun
    nomatch begun
  · rw [damaged] at begun
    nomatch begun
  · rw [lead_of_two above below] at begun
    obtain rfl := Lead.begun.inj begun
    obtain ⟨z, rfl, z_above, z_below, code⟩ := completes.of_zero
    have same : (Char.ofNat n).toNat = n := toNat_ofNat (by omega)
    have first : UInt8.ofNat (n / 64 + 0xc0) = b := ofNat_eq (by omega)
    have last : UInt8.ofNat (n % 64 + 0x80) = z := ofNat_eq (by omega)
    rw [encodeChar_of_two (by omega) (by omega), same, first, last]
  · rw [lead_of_three above below] at begun
    obtain rfl := Lead.begun.inj begun
    obtain ⟨y, _, rfl, y_above, y_below, completes⟩ := completes.of_succ
    obtain ⟨z, rfl, z_above, z_below, code⟩ := completes.of_zero
    -- the bounds on the second byte depend on the first one
    have y_range : 0x80 ≤ y.toNat ∧ y.toNat ≤ 0xbf := by grind
    have small : 0x800 ≤ n := by split at y_above <;> omega
    have valid : n.isValidChar := by split at y_below <;> omega
    have same : (Char.ofNat n).toNat = n := toNat_ofNat valid
    have first : UInt8.ofNat (n / 4096 + 0xe0) = b := ofNat_eq (by omega)
    have second : UInt8.ofNat (n / 64 % 64 + 0x80) = y := ofNat_eq (by omega)
    have last : UInt8.ofNat (n % 64 + 0x80) = z := ofNat_eq (by omega)
    rw [encodeChar_of_three (by omega) (by omega), same, first, second, last]
  · rw [lead_of_four above below] at begun
    obtain rfl := Lead.begun.inj begun
    obtain ⟨x, _, rfl, x_above, x_below, completes⟩ := completes.of_succ
    obtain ⟨y, _, rfl, y_above, y_below, completes⟩ := completes.of_succ
    obtain ⟨z, rfl, z_above, z_below, code⟩ := completes.of_zero
    have x_range : 0x80 ≤ x.toNat ∧ x.toNat ≤ 0xbf := by grind
    have small : 0x10000 ≤ n := by split at x_above <;> omega
    have large : n < 0x110000 := by split at x_below <;> omega
    have same : (Char.ofNat n).toNat = n := toNat_ofNat (.inr ⟨by omega, large⟩)
    have first : UInt8.ofNat (n / 262144 + 0xf0) = b := ofNat_eq (by omega)
    have second : UInt8.ofNat (n / 4096 % 64 + 0x80) = x := ofNat_eq (by omega)
    have third : UInt8.ofNat (n / 64 % 64 + 0x80) = y := ofNat_eq (by omega)
    have last : UInt8.ofNat (n % 64 + 0x80) = z := ofNat_eq (by omega)
    rw [encodeChar_of_four (by omega), same, first, second, third, last]

end Encode

/-- What is written can be read, whatever comes behind it. -/
theorem scan_encode_append (s : List Char) (rest : Bytes) :
    scan none (encode s ++ rest) = s.map some ++ scan none rest := by
  induction s with
  | nil => rfl
  | cons c s ih =>
    rw [encode_cons, List.map_cons, List.append_assoc]
    by_cases ascii : c.toNat < 0x80
    · have same : (UInt8.ofNat c.toNat).toNat = c.toNat :=
        UInt8.toNat_ofNat_of_lt' (Nat.lt_trans ascii (by decide))
      rw [encodeChar_of_ascii ascii, List.singleton_append, scan, lead_of_ascii (by omega), same,
        Char.ofNat_toNat, ih, List.cons_append]
    · obtain ⟨b, tail, p, bytes, begun, completes⟩ := begun_of_char (c := c) (by omega)
      rw [bytes, List.cons_append, scan, begun]
      simp only
      rw [scan_of_completes completes, Char.ofNat_toNat, ih, List.cons_append]

/-- What is written can be read. -/
theorem scan_encode (s : List Char) : scan none (encode s) = s.map some := by
  have whole := scan_encode_append s []
  rwa [List.append_nil, scan, List.append_nil] at whole

/-- Where nothing is damaged, the bytes begin with those of the first character. -/
theorem char_of_scan {b : UInt8} {rest : Bytes} {s : List Char}
    (h : scan none (b :: rest) = s.map some) :
    ∃ c t behind, s = c :: t ∧ b :: rest = String.utf8EncodeChar c ++ behind ∧
      scan none behind = t.map some := by
  rw [scan] at h
  cases first : lead b with
  | whole c =>
    obtain ⟨ascii, rfl⟩ := ascii_of_lead first
    obtain _ | ⟨d, t⟩ := s
    · rw [first] at h
      nomatch h
    obtain ⟨rfl, read⟩ : Char.ofNat b.toNat = d ∧ scan none rest = t.map some := by
      simpa [first] using h
    refine ⟨_, t, rest, rfl, ?_, read⟩
    rw [encodeChar_byte ascii, List.singleton_append]
  | begun p =>
    rw [first] at h
    obtain ⟨tail, behind, n, t, rfl, completes, rfl, read⟩ := completes_of_scan h
    refine ⟨_, t, behind, rfl, ?_, read⟩
    rw [encodeChar_of_completes first completes, List.cons_append]
  | damaged =>
    rw [first] at h
    cases s <;> nomatch h

/-- What can be read has been written. -/
theorem encode_of_scan {bytes : Bytes} {s : List Char} (h : scan none bytes = s.map some) :
    encode s = bytes := by
  induction s generalizing bytes with
  | nil =>
    cases bytes with
    | nil => rfl
    | cons b rest =>
      obtain ⟨c, t, _, found, _⟩ := char_of_scan h
      nomatch found
  | cons c s ih =>
    cases bytes with
    | nil => nomatch h
    | cons b rest =>
      obtain ⟨d, t, behind, found, bytes, read⟩ := char_of_scan h
      obtain ⟨rfl, rfl⟩ := List.cons.inj found
      rw [encode_cons, ih read, bytes]

/-- Reading undoes writing, and nothing else can be read. -/
theorem decode?_eq_some_iff {bytes : Bytes} {s : List Char} :
    decode? bytes = some s ↔ encode s = bytes := by
  rw [decode?_eq_some_iff_scan]
  constructor
  · exact encode_of_scan
  · rintro rfl
    exact scan_encode s

/-- No two texts have the same bytes. -/
theorem encode_injective {s t : List Char} (h : encode s = encode t) : s = t := by
  have read := decode?_eq_some_iff.mpr h
  rw [decode?_eq_some_iff.mpr rfl] at read
  exact (Option.some.inj read).symm

/-- A text begins with another one if its bytes begin with those of the other. -/
theorem encode_prefix_iff {s t : List Char} : encode s <+: encode t ↔ s <+: t := by
  constructor
  · rintro ⟨rest, bytes⟩
    have read := scan_encode t
    rw [← bytes, scan_encode_append] at read
    obtain ⟨front, behind, rfl, same, -⟩ := List.map_eq_append_iff.mp read.symm
    obtain rfl := (List.map_inj_right fun _ _ => Option.some.inj).mp same
    exact List.prefix_append _ behind
  · rintro ⟨rest, rfl⟩
    rw [encode_append]
    exact List.prefix_append _ _

theorem encode_of_ascii {bytes : Bytes} (ascii : ∀ b ∈ bytes, b.toNat < 0x80) :
    encode (bytes.map fun b => Char.ofNat b.toNat) = bytes := by
  induction bytes with
  | nil => rfl
  | cons b rest ih =>
    obtain ⟨first, behind⟩ := List.forall_mem_cons.mp ascii
    rw [List.map_cons, encode_cons, ih behind, encodeChar_byte first, List.singleton_append]

/-- The byte strings that can be read are those that a string can consist of. -/
theorem isSome_decode? (bytes : Bytes) :
    (decode? bytes).isSome ↔ ByteArray.IsValidUTF8 bytes.toByteArray := by
  constructor
  · intro read
    obtain ⟨s, h⟩ := Option.isSome_iff_exists.mp read
    refine .intro s ?_
    rw [← decode?_eq_some_iff.mp h]
    rfl
  · rintro ⟨s, h⟩
    have written : encode s = bytes := (List.toByteArray_inj.mp h).symm
    rw [decode?_eq_some_iff.mpr written]
    rfl

/-- A text has no more characters than bytes. -/
theorem length_le_utf8ByteSize (s : String) : s.toList.length ≤ s.utf8ByteSize := by
  obtain ⟨cs, rfl⟩ : ∃ cs, s = String.ofList cs := ⟨s.toList, String.ofList_toList.symm⟩
  rw [String.toList_ofList, String.utf8ByteSize_ofList]
  induction cs with
  | nil => exact Nat.le_refl 0
  | cons c cs ih =>
    have one := c.utf8Size_pos
    rw [List.length_cons, String.utf8Len_cons]
    omega

end Rehearsal.Text.Utf8
