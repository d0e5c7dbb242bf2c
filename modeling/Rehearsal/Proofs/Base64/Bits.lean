import Rehearsal.Proofs.Base64

/-!
# Base64 by bits

What a text of symbols is for bytes, said without a way to make it or to read it: the bits of
the symbols are the bits of the bytes, with zeros behind them where the text is filled up. For
bytes there is exactly one such text, which is the one that encoding writes.
-/

namespace Rehearsal.Base64

open Text

/-- The last bits of a number, `n` of them, the highest one first. -/
def bits : (n : Nat) → Nat → List Bool
  | 0, _ => []
  | n + 1, v => bits n (v / 2) ++ [v % 2 == 1]

@[simp] theorem length_bits (n v : Nat) : (bits n v).length = n := by
  induction n generalizing v with
  | zero => rfl
  | succ n ih => rw [bits, List.length_append, ih, List.length_singleton]

/-- The bits of a number are those of its front and those of its back. -/
theorem bits_append (m n : Nat) {v x y : Nat} (small : y < 2 ^ n) (parts : v = x * 2 ^ n + y) :
    bits (m + n) v = bits m x ++ bits n y := by
  induction n generalizing v y with
  | zero =>
    have same : v = x := by omega
    rw [same, Nat.add_zero, bits, List.append_nil]
  | succ n ih =>
    rw [Nat.pow_succ, ← Nat.mul_assoc] at parts
    have half : v / 2 = x * 2 ^ n + y / 2 := by omega
    have last : v % 2 = y % 2 := by omega
    rw [← Nat.add_assoc, bits, bits, ih (by omega) half, last, List.append_assoc]

theorem bits_inj {n v w : Nat} (hv : v < 2 ^ n) (hw : w < 2 ^ n) (same : bits n v = bits n w) :
    v = w := by
  induction n generalizing v w with
  | zero =>
    rw [Nat.pow_zero] at hv hw
    omega
  | succ n ih =>
    obtain ⟨front, last⟩ := List.append_inj same (by rw [length_bits, length_bits])
    have halves : v / 2 = w / 2 := ih (by omega) (by omega) front
    have parity : (v % 2 == 1) = (w % 2 == 1) := List.head_eq_of_cons_eq last
    rw [Bool.eq_iff_iff, beq_iff_eq, beq_iff_eq] at parity
    omega

/-- The bits of numbers one after another say which numbers they are. -/
theorem flatMap_bits_inj {n : Nat} {vs ws : List Nat} (hv : ∀ v ∈ vs, v < 2 ^ n)
    (hw : ∀ w ∈ ws, w < 2 ^ n) (length : vs.length = ws.length)
    (same : vs.flatMap (bits n) = ws.flatMap (bits n)) : vs = ws := by
  induction vs generalizing ws with
  | nil => exact (List.length_eq_zero_iff.mp length.symm).symm
  | cons v vs ih =>
    cases ws with
    | nil => nomatch length
    | cons w ws =>
      rw [List.forall_mem_cons] at hv hw
      rw [List.flatMap_cons, List.flatMap_cons] at same
      obtain ⟨first, behind⟩ := List.append_inj same (by rw [length_bits, length_bits])
      rw [bits_inj hv.1 hw.1 first, ih hv.2 hw.2 (Nat.succ.inj length) behind]

/-- The bits of bytes. -/
def byteBits (bytes : Bytes) : List Bool := bytes.flatMap fun b => bits 8 b.toNat

theorem byteBits_append (front behind : Bytes) :
    byteBits (front ++ behind) = byteBits front ++ byteBits behind := List.flatMap_append

/-- The values of symbols for bytes, to be filled up to full groups of four. -/
structure Spells (values : List Nat) (missing : Nat) (bytes : Bytes) : Prop where
  small : ∀ v ∈ values, v < 64
  few : missing ≤ 2
  groups : (values.length + missing) % 4 = 0
  spelled : values.flatMap (bits 6) = byteBits bytes ++ List.replicate (2 * missing) false

/-- There is one way to spell bytes. -/
theorem Spells.unique {bytes : Bytes} {vs ws : List Nat} {m n : Nat} (first : Spells vs m bytes)
    (second : Spells ws n bytes) : vs = ws ∧ m = n := by
  have count {values : List Nat} {missing : Nat} (spells : Spells values missing bytes) :
      values.length * 6 = (byteBits bytes).length + 2 * missing := by
    have lengths := congrArg List.length spells.spelled
    rwa [List.length_flatMap, List.length_append, List.length_replicate, List.map_congr_left
      fun v _ => length_bits 6 v, List.map_const', List.sum_replicate_nat] at lengths
  have firstCount := count first
  have secondCount := count second
  have := first.few
  have := second.few
  have := first.groups
  have := second.groups
  have missing : m = n := by omega
  have length : vs.length = ws.length := by omega
  refine ⟨flatMap_bits_inj (n := 6) first.small second.small length ?_, missing⟩
  rw [first.spelled, second.spelled, missing]

section Group

variable (a b c : UInt8)

theorem bits_two : bits 8 a.toNat = bits 2 (a.toNat / 64) ++ bits 6 (a.toNat % 64) :=
  bits_append 2 6 (by omega) (by omega)

theorem bits_four : bits 8 a.toNat = bits 4 (a.toNat / 16) ++ bits 4 (a.toNat % 16) :=
  bits_append 4 4 (by omega) (by omega)

theorem bits_six : bits 8 a.toNat = bits 6 (a.toNat / 4) ++ bits 2 (a.toNat % 4) :=
  bits_append 6 2 (by omega) (by omega)

theorem spells_oneByte : Spells (oneByte a) 2 [a] where
  small := oneByte_lt a
  few := by decide
  groups := by simp [oneByte]
  spelled := by
    have second : bits 6 (a.toNat % 4 * 16) = bits 2 (a.toNat % 4) ++ bits 4 0 :=
      bits_append 2 4 (by omega) (by omega)
    simp only [oneByte, byteBits, List.flatMap_cons, List.flatMap_nil, second, bits_six,
      List.append_assoc, List.append_nil]
    rfl

theorem spells_twoBytes : Spells (twoBytes a b) 1 [a, b] where
  small := twoBytes_lt a b
  few := by decide
  groups := by simp [twoBytes]
  spelled := by
    have := b.toNat_lt
    have second : bits 6 (a.toNat % 4 * 16 + b.toNat / 16) =
        bits 2 (a.toNat % 4) ++ bits 4 (b.toNat / 16) := bits_append 2 4 (by omega) (by omega)
    have third : bits 6 (b.toNat % 16 * 4) = bits 4 (b.toNat % 16) ++ bits 2 0 :=
      bits_append 4 2 (by omega) (by omega)
    simp only [twoBytes, byteBits, List.flatMap_cons, List.flatMap_nil, second, third, bits_six a,
      bits_four b, List.append_assoc, List.append_nil]
    rfl

theorem flatMap_bits_threeBytes : (threeBytes a b c).flatMap (bits 6) = byteBits [a, b, c] := by
  have := b.toNat_lt
  have := c.toNat_lt
  have second : bits 6 (a.toNat % 4 * 16 + b.toNat / 16) =
      bits 2 (a.toNat % 4) ++ bits 4 (b.toNat / 16) := bits_append 2 4 (by omega) (by omega)
  have third : bits 6 (b.toNat % 16 * 4 + c.toNat / 64) =
      bits 4 (b.toNat % 16) ++ bits 2 (c.toNat / 64) := bits_append 4 2 (by omega) (by omega)
  simp only [threeBytes, byteBits, List.flatMap_cons, List.flatMap_nil, second, third, bits_six a,
    bits_four b, bits_two c, List.append_assoc, List.append_nil]

end Group

/-- Encoding spells. -/
theorem exists_spells (bytes : Bytes) :
    ∃ values missing, Spells values missing bytes ∧
      encode bytes = values.map symbol ++ List.replicate missing pad := by
  induction bytes using encode.induct with
  | case1 => exact ⟨[], 0, ⟨List.forall_mem_nil _, by decide, by rfl, rfl⟩, rfl⟩
  | case2 a => exact ⟨_, _, spells_oneByte a, encode_one a⟩
  | case3 a b => exact ⟨_, _, spells_twoBytes a b, encode_two a b⟩
  | case4 a b c rest ih =>
    obtain ⟨values, missing, spells, written⟩ := ih
    refine ⟨threeBytes a b c ++ values, missing, ?_, ?_⟩
    · constructor
      · exact List.forall_mem_append.mpr ⟨threeBytes_lt a b c, spells.small⟩
      · exact spells.few
      · have four : (threeBytes a b c).length = 4 := rfl
        have groups := spells.groups
        rw [List.length_append, four]
        omega
      · have bytes : byteBits (a :: b :: c :: rest) = byteBits [a, b, c] ++ byteBits rest :=
          byteBits_append [a, b, c] rest
        rw [List.flatMap_append, flatMap_bits_threeBytes, spells.spelled, bytes,
          List.append_assoc]
    · rw [encode_three, written, List.map_append, List.append_assoc]

/-- A text is the canonical form of bytes: symbols of the alphabet, with one or two `=` behind
them where it takes these for groups of four. The bits of the places of the symbols in the
alphabet are those of the bytes, and zeros behind them, two for each `=`. -/
inductive Writes (bytes : Bytes) : String → Prop
  | filled (symbols : List Char) (missing : Nat) (known : ∀ c ∈ symbols, c ∈ alphabet)
      (few : missing ≤ 2) (groups : (symbols.length + missing) % 4 = 0)
      (spelled : symbols.flatMap (fun c => bits 6 (alphabet.idxOf c)) =
        byteBits bytes ++ List.replicate (2 * missing) false) :
      Writes bytes (String.ofList (symbols ++ List.replicate missing '='))

/-- What bytes are written as, as a text. -/
def encodedText (bytes : Bytes) : String :=
  String.ofList ((encode bytes).map fun b => Char.ofNat b.toNat)

/-- The symbol of a value, as a character. -/
def symbolChar (v : Nat) : Char := Char.ofNat (symbol v).toNat

theorem symbolChar_mem {v : Nat} (small : v < 64) : symbolChar v ∈ alphabet :=
  List.mem_of_getElem? (symbol_alphabet v small).symm

theorem idxOf_symbolChar : ∀ v < 64, alphabet.idxOf (symbolChar v) = v := by decide

/-- A symbol is that of its place in the alphabet. -/
theorem symbolChar_idxOf {c : Char} (known : c ∈ alphabet) :
    alphabet.idxOf c < 64 ∧ symbolChar (alphabet.idxOf c) = c := by
  have place : alphabet.idxOf c < 64 := List.idxOf_lt_length_iff.mpr known
  have there : alphabet[alphabet.idxOf c]? = some c := List.getElem?_idxOf known
  exact ⟨place, Option.some.inj ((symbol_alphabet _ place).trans there)⟩

theorem encodedText_eq {bytes : Bytes} {values : List Nat} {missing : Nat}
    (written : encode bytes = values.map symbol ++ List.replicate missing pad) :
    encodedText bytes =
      String.ofList (values.map symbolChar ++ List.replicate missing '=') := by
  rw [encodedText, written, List.map_append, List.map_map, List.map_replicate]
  rfl

/-- The text that encoding writes is the canonical one, and there is no other. -/
theorem writes_iff {bytes : Bytes} {text : String} :
    Writes bytes text ↔ text = encodedText bytes := by
  obtain ⟨values, missing, spells, written⟩ := exists_spells bytes
  rw [encodedText_eq written]
  constructor
  · intro writes
    cases writes with
    | filled symbols missing' known few groups spelled =>
      have again : Spells (symbols.map alphabet.idxOf) missing' bytes := by
        constructor
        · rw [List.forall_mem_map]
          intro c mem
          exact (symbolChar_idxOf (known c mem)).1
        · exact few
        · rwa [List.length_map]
        · rwa [List.flatMap_map]
      obtain ⟨same, rfl⟩ := spells.unique again
      have back : (symbols.map alphabet.idxOf).map symbolChar = symbols := by
        rw [List.map_map]
        refine (List.map_congr_left ?_).trans (List.map_id symbols)
        intro c mem
        exact (symbolChar_idxOf (known c mem)).2
      rw [same, back]
  · rintro rfl
    have places : values.map (alphabet.idxOf ∘ symbolChar) = values := by
      refine (List.map_congr_left ?_).trans (List.map_id values)
      intro v mem
      exact idxOf_symbolChar v (spells.small v mem)
    apply Writes.filled
    · rw [List.forall_mem_map]
      intro v mem
      exact symbolChar_mem (spells.small v mem)
    · exact spells.few
    · rw [List.length_map]
      exact spells.groups
    · rw [← spells.spelled, List.flatMap_map]
      nth_rewrite 2 [← places]
      rw [List.flatMap_map]
      rfl

theorem writes_iff_encode {bytes : Bytes} {text : String} :
    Writes bytes text ↔ Utf8.encode text.toList = encode bytes := by
  rw [writes_iff, ← encode_symbols]
  constructor
  · rintro rfl
    rw [encodedText, String.toList_ofList]
  · intro same
    rw [encodedText, ← Utf8.encode_injective same, String.ofList_toList]

end Rehearsal.Base64
