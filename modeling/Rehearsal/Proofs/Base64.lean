import Rehearsal.Base64
import Rehearsal.Proofs.Text.Utf8

/-!
# Base64 to and fro

The symbols of bytes decode to the bytes. A group is read by itself, and the group at
the end of a list of groups differs from the others only in being filled up, so there
is one rule for a full group in front and one for a last group of any length. The same
rules the other way round say that nothing else decodes.
-/

namespace Rehearsal.Base64

open Text

theorem symbol_ne_pad : ∀ v < 64, symbol v ≠ pad := by decide

theorem symbol_lt : ∀ v < 64, (symbol v).toNat < 0x80 := by decide

/-- Symbols have the values they were made of. -/
theorem values_symbols {vs : List Nat} (small : ∀ v ∈ vs, v < 64) (offset : Nat) :
    values offset (vs.map symbol) = .ok vs := by
  induction vs generalizing offset with
  | nil => rfl
  | cons v vs ih =>
    obtain ⟨first, behind⟩ := List.forall_mem_cons.mp small
    rw [List.map_cons, values, value?_symbol v first, ih behind]
    rfl

/-- A last group of two to four symbols, filled up to four. -/
theorem decodeLast_filled {vs : List Nat} {missing : Nat} (small : ∀ v ∈ vs, v < 64)
    (two : 2 ≤ vs.length) (four : vs.length + missing = 4) (canonical : spareBits vs = 0)
    (offset : Nat) :
    decodeLast offset (vs.map symbol ++ List.replicate missing pad) = .ok (groupBytes vs) := by
  have unpadded : ∀ b ∈ vs.map symbol, (b != pad) = true := by
    intro b mem
    obtain ⟨v, v_mem, rfl⟩ := List.mem_map.mp mem
    exact bne_iff_ne.mpr (symbol_ne_pad v (small v v_mem))
  have symbols : (vs.map symbol ++ List.replicate missing pad).takeWhile (· != pad) =
      vs.map symbol := by
    rw [List.takeWhile_append_of_pos unpadded]
    cases missing <;> simp [List.replicate_succ]
  have filling : (vs.map symbol ++ List.replicate missing pad).dropWhile (· != pad) =
      List.replicate missing pad := by
    rw [List.dropWhile_append_of_pos unpadded]
    cases missing <;> simp [List.replicate_succ]
  have filled : (!(List.replicate missing pad).isEmpty &&
      (decide (vs.length < 2) || (List.replicate missing pad).any (· != pad))) = false := by
    have long : decide (vs.length < 2) = false := decide_eq_false (Nat.not_lt.mpr two)
    have pads : (List.replicate missing pad).any (· != pad) = false := by simp
    rw [long, pads, Bool.or_false, Bool.and_false]
  have some_symbol : (vs.map symbol ++ List.replicate missing pad).isEmpty = false := by
    cases vs with
    | nil => simp at two
    | cons v vs => rfl
  rw [decodeLast]
  simp only [symbols, filling, values_symbols small, List.length_map, List.length_append,
    List.length_replicate, four, some_symbol, filled]
  simp only [Bool.false_eq_true, if_false, Nat.not_lt.mpr two, bne_self_eq_false, bne_iff_ne,
    ne_eq, ite_not]
  exact if_pos canonical

/-- A full group in front of others. -/
theorem decodeGroups_symbols {vs : List Nat} (small : ∀ v ∈ vs, v < 64) (four : vs.length = 4)
    (rest : Bytes) (offset : Nat) :
    decodeGroups offset (vs.map symbol ++ rest) =
      (decodeGroups (offset + 4) rest).map (groupBytes vs ++ ·) := by
  obtain ⟨p, q, r, s, rfl⟩ : ∃ p q r s, vs = [p, q, r, s] := by
    match vs, four with
    | [p, q, r, s], _ => exact ⟨p, q, r, s, rfl⟩
  cases rest with
  | nil =>
    have last : decodeLast offset ([p, q, r, s].map symbol ++ List.replicate 0 pad) =
      .ok (groupBytes [p, q, r, s]) := decodeLast_filled small (by simp) rfl rfl offset
    exact last
  | cons b rest =>
    have vs := values_symbols small offset
    simp only [List.map_cons, List.map_nil, List.cons_append, List.nil_append] at vs ⊢
    rw [decodeGroups, vs]
    cases decodeGroups (offset + 4) (b :: rest) <;> rfl

/-- A last group, filled up. -/
theorem decodeGroups_filled {vs : List Nat} {missing : Nat} (small : ∀ v ∈ vs, v < 64)
    (two : 2 ≤ vs.length) (four : vs.length + missing = 4) (canonical : spareBits vs = 0)
    (offset : Nat) :
    decodeGroups offset (vs.map symbol ++ List.replicate missing pad) = .ok (groupBytes vs) := by
  rw [← decodeLast_filled small two four canonical offset]
  have four_symbols : (vs.map symbol ++ List.replicate missing pad).length = 4 := by simpa using four
  generalize vs.map symbol ++ List.replicate missing pad = group at four_symbols
  match group, four_symbols with
  | [a, b, c, d], _ => rfl

/-- The values of one byte. -/
def oneByte (a : UInt8) : List Nat := [a.toNat / 4, a.toNat % 4 * 16]

/-- The values of two bytes. -/
def twoBytes (a b : UInt8) : List Nat :=
  [a.toNat / 4, a.toNat % 4 * 16 + b.toNat / 16, b.toNat % 16 * 4]

/-- The values of three bytes. -/
def threeBytes (a b c : UInt8) : List Nat :=
  [a.toNat / 4, a.toNat % 4 * 16 + b.toNat / 16, b.toNat % 16 * 4 + c.toNat / 64, c.toNat % 64]

section Group

variable (a b c : UInt8)

theorem encode_one : encode [a] = (oneByte a).map symbol ++ List.replicate 2 pad := rfl

theorem encode_two : encode [a, b] = (twoBytes a b).map symbol ++ List.replicate 1 pad := rfl

theorem encode_three (rest : Bytes) :
    encode (a :: b :: c :: rest) = (threeBytes a b c).map symbol ++ encode rest := rfl

theorem oneByte_lt : ∀ v ∈ oneByte a, v < 64 := by
  have := a.toNat_lt
  simp only [oneByte, List.forall_mem_cons]
  exact ⟨by omega, by omega, by simp⟩

theorem twoBytes_lt : ∀ v ∈ twoBytes a b, v < 64 := by
  have := a.toNat_lt
  have := b.toNat_lt
  simp only [twoBytes, List.forall_mem_cons]
  exact ⟨by omega, by omega, by omega, by simp⟩

theorem threeBytes_lt : ∀ v ∈ threeBytes a b c, v < 64 := by
  have := a.toNat_lt
  have := b.toNat_lt
  have := c.toNat_lt
  simp only [threeBytes, List.forall_mem_cons]
  exact ⟨by omega, by omega, by omega, by omega, by simp⟩

theorem groupBytes_oneByte : groupBytes (oneByte a) = [a] := by
  have := a.toNat_lt
  rw [oneByte, groupBytes, Utf8.ofNat_eq (b := a) (by omega)]

theorem groupBytes_twoBytes : groupBytes (twoBytes a b) = [a, b] := by
  have := a.toNat_lt
  have := b.toNat_lt
  rw [twoBytes, groupBytes, Utf8.ofNat_eq (b := a) (by omega), Utf8.ofNat_eq (b := b) (by omega)]

theorem groupBytes_threeBytes : groupBytes (threeBytes a b c) = [a, b, c] := by
  have := a.toNat_lt
  have := b.toNat_lt
  have := c.toNat_lt
  rw [threeBytes, groupBytes, Utf8.ofNat_eq (b := a) (by omega),
    Utf8.ofNat_eq (b := b) (by omega), Utf8.ofNat_eq (b := c) (by omega)]

end Group

/-- Decoding undoes encoding, group by group. -/
theorem decodeGroups_encode (bytes : Bytes) (offset : Nat) :
    decodeGroups offset (encode bytes) = .ok bytes := by
  induction bytes using encode.induct generalizing offset with
  | case1 => rfl
  | case2 a =>
    rw [encode_one, decodeGroups_filled (oneByte_lt a) (by simp [oneByte]) rfl
      (by simp [oneByte, spareBits]), groupBytes_oneByte]
  | case3 a b =>
    rw [encode_two, decodeGroups_filled (twoBytes_lt a b) (by simp [twoBytes]) rfl
      (by simp [twoBytes, spareBits]), groupBytes_twoBytes]
  | case4 a b c rest ih =>
    rw [encode_three, decodeGroups_symbols (threeBytes_lt a b c) rfl, ih, groupBytes_threeBytes]
    rfl

theorem length_encode_mod (bytes : Bytes) : (encode bytes).length % 4 = 0 := by
  induction bytes using encode.induct with
  | case1 => rfl
  | case2 a => simp [encode]
  | case3 a b => simp [encode]
  | case4 a b c rest ih =>
    have four : ((threeBytes a b c).map symbol).length = 4 := rfl
    rw [encode_three, List.length_append, four]
    omega

/-- Decoding undoes encoding. -/
theorem decode_encode (bytes : Bytes) : decode (encode bytes) = .ok bytes := by
  have whole := length_encode_mod bytes
  rw [decode]
  split
  · rw [whole]
    exact decodeGroups_encode bytes 0
  · exact decodeGroups_encode bytes 0

/-- A byte with a value is the symbol of it. -/
theorem symbol_of_value? {b : UInt8} {v : Nat} (valued : value? b = some v) :
    v < 64 ∧ symbol v = b := by
  unfold value? at valued
  simp only [Bool.and_eq_true, decide_eq_true_eq] at valued
  split at valued
  next upper =>
    obtain rfl := Option.some.inj valued
    refine ⟨by omega, ?_⟩
    rw [symbol, if_pos (by omega)]
    exact Utf8.ofNat_eq (by omega)
  next =>
    split at valued
    next lower =>
      obtain rfl := Option.some.inj valued
      refine ⟨by omega, ?_⟩
      rw [symbol, if_neg (by omega), if_pos (by omega)]
      exact Utf8.ofNat_eq (by omega)
    next =>
      split at valued
      next digit =>
        obtain rfl := Option.some.inj valued
        refine ⟨by omega, ?_⟩
        rw [symbol, if_neg (by omega), if_neg (by omega), if_pos (by omega)]
        exact Utf8.ofNat_eq (by omega)
      next =>
        split at valued
        next plus =>
          obtain rfl := Option.some.inj valued
          exact ⟨by decide, UInt8.toNat_inj.mp plus.symm⟩
        next =>
          split at valued
          next slash =>
            obtain rfl := Option.some.inj valued
            exact ⟨by decide, UInt8.toNat_inj.mp slash.symm⟩
          · nomatch valued

/-- Bytes with values are the symbols of them. -/
theorem eq_symbols_of_values {bs : Bytes} {vs : List Nat} {offset : Nat}
    (valued : values offset bs = .ok vs) : bs = vs.map symbol ∧ ∀ v ∈ vs, v < 64 := by
  induction bs generalizing offset vs with
  | nil =>
    obtain rfl := Except.ok.inj valued
    exact ⟨rfl, nofun⟩
  | cons b bs ih =>
    rw [values] at valued
    cases first : value? b with
    | none =>
      rw [first] at valued
      nomatch valued
    | some v =>
      rw [first] at valued
      cases behind : values (offset + 1) bs with
      | error fault =>
        rw [behind] at valued
        nomatch valued
      | ok others =>
        rw [behind] at valued
        obtain rfl := Except.ok.inj valued
        obtain ⟨small, rfl⟩ := symbol_of_value? first
        obtain ⟨rfl, smalls⟩ := ih behind
        exact ⟨rfl, List.forall_mem_cons.mpr ⟨small, smalls⟩⟩

section Values

variable {p q r s : Nat}

theorem toNat_firstByte (hp : p < 64) (hq : q < 64) :
    (UInt8.ofNat (p * 4 + q / 16)).toNat = p * 4 + q / 16 :=
  UInt8.toNat_ofNat_of_lt' (by simp only [UInt8.size]; omega)

theorem toNat_secondByte (hr : r < 64) :
    (UInt8.ofNat (q % 16 * 16 + r / 4)).toNat = q % 16 * 16 + r / 4 :=
  UInt8.toNat_ofNat_of_lt' (by simp only [UInt8.size]; omega)

theorem oneByte_of_values (hp : p < 64) (hq : q < 64) (canonical : q % 16 = 0) :
    oneByte (UInt8.ofNat (p * 4 + q / 16)) = [p, q] := by
  simp only [oneByte, toNat_firstByte hp hq, List.cons.injEq, and_true]
  constructor <;> omega

theorem twoBytes_of_values (hp : p < 64) (hq : q < 64) (hr : r < 64) (canonical : r % 4 = 0) :
    twoBytes (UInt8.ofNat (p * 4 + q / 16)) (UInt8.ofNat (q % 16 * 16 + r / 4)) = [p, q, r] := by
  simp only [twoBytes, toNat_firstByte hp hq, toNat_secondByte hr, List.cons.injEq, and_true]
  refine ⟨?_, ?_, ?_⟩ <;> omega

theorem threeBytes_of_values (hp : p < 64) (hq : q < 64) (hr : r < 64) (hs : s < 64) :
    threeBytes (UInt8.ofNat (p * 4 + q / 16)) (UInt8.ofNat (q % 16 * 16 + r / 4))
      (UInt8.ofNat (r % 4 * 64 + s)) = [p, q, r, s] := by
  have third : (UInt8.ofNat (r % 4 * 64 + s)).toNat = r % 4 * 64 + s :=
    UInt8.toNat_ofNat_of_lt' (by simp only [UInt8.size]; omega)
  simp only [threeBytes, toNat_firstByte hp hq, toNat_secondByte hr, third, List.cons.injEq,
    and_true]
  refine ⟨?_, ?_, ?_, ?_⟩ <;> omega

end Values

/-- Four values are written as their symbols, whatever comes behind. -/
theorem encode_groupBytes_append {vs : List Nat} (small : ∀ v ∈ vs, v < 64)
    (four : vs.length = 4) (rest : Bytes) :
    encode (groupBytes vs ++ rest) = vs.map symbol ++ encode rest := by
  match vs, four with
  | [p, q, r, s], _ =>
    simp only [List.forall_mem_cons] at small
    obtain ⟨hp, hq, hr, hs, -⟩ := small
    change encode (_ :: _ :: _ :: rest) = _
    rw [encode_three, threeBytes_of_values hp hq hr hs]

/-- The bytes of a last group are written as the group, filled up. -/
theorem encode_groupBytes {vs : List Nat} (small : ∀ v ∈ vs, v < 64) (two : 2 ≤ vs.length)
    (four : vs.length ≤ 4) (canonical : spareBits vs = 0) :
    encode (groupBytes vs) = vs.map symbol ++ List.replicate (4 - vs.length) pad := by
  match vs, two, four with
  | [p, q], _, _ =>
    simp only [List.forall_mem_cons] at small
    rw [groupBytes, encode_one, oneByte_of_values small.1 small.2.1 canonical]
    rfl
  | [p, q, r], _, _ =>
    simp only [List.forall_mem_cons] at small
    rw [groupBytes, encode_two, twoBytes_of_values small.1 small.2.1 small.2.2.1 canonical]
    rfl
  | [p, q, r, s], _, _ =>
    have whole := encode_groupBytes_append small rfl []
    rwa [List.append_nil] at whole

/-- A group is not filled up with anything else. -/
theorem pads_of_accepted {filling : Bytes} {short : Bool}
    (accepted : ¬ (!filling.isEmpty && (short || filling.any (· != pad))) = true) :
    ∀ b ∈ filling, b = pad := by
  intro b mem
  by_contra other
  refine accepted ?_
  have filled : filling.isEmpty = false := List.isEmpty_eq_false_iff_exists_mem.mpr ⟨b, mem⟩
  have foreign : (filling.any (· != pad)) = true :=
    List.any_eq_true.mpr ⟨b, mem, bne_iff_ne.mpr other⟩
  rw [filled, foreign, Bool.or_true]
  rfl

/-- A last group that decodes is what its bytes are written as. -/
theorem eq_encode_of_decodeLast {group bytes : Bytes} {offset : Nat}
    (decoded : decodeLast offset group = .ok bytes) : group = encode bytes := by
  rw [decodeLast] at decoded
  have parts := List.takeWhile_append_dropWhile (p := (· != pad)) (l := group)
  generalize group.takeWhile (· != pad) = symbols at decoded parts
  generalize group.dropWhile (· != pad) = filling at decoded parts
  cases valued : values offset symbols with
  | error fault =>
    rw [valued] at decoded
    nomatch decoded
  | ok vs =>
    rw [valued] at decoded
    obtain ⟨rfl, small⟩ := eq_symbols_of_values valued
    dsimp only [bind, Except.bind] at decoded
    split at decoded
    · nomatch decoded
    next accepted =>
      split at decoded
      next empty =>
        obtain rfl := Except.ok.inj decoded
        exact List.isEmpty_iff.mp empty
      next =>
        split at decoded
        · nomatch decoded
        next two =>
          split at decoded
          · nomatch decoded
          next four =>
            split at decoded
            · nomatch decoded
            next canonical =>
              obtain rfl := Except.ok.inj decoded
              simp only [List.length_map, Bool.not_eq_true, bne_eq_false_iff_eq]
                at two four canonical
              have count : vs.length + filling.length = 4 := by
                rw [← four, ← parts, List.length_append, List.length_map]
              rw [encode_groupBytes small (Nat.not_lt.mp two) (by omega) canonical, ← parts,
                ← count, Nat.add_sub_cancel_left,
                ← List.eq_replicate_of_mem (pads_of_accepted accepted)]

/-- Symbols in groups decode to no other bytes than those they are written for. -/
theorem eq_encode_of_decodeGroups {symbols bytes : Bytes} {offset : Nat}
    (decoded : decodeGroups offset symbols = .ok bytes) : symbols = encode bytes := by
  induction offset, symbols using decodeGroups.induct generalizing bytes with
  | case1 offset a b c d e rest ih =>
    rw [decodeGroups] at decoded
    cases valued : values offset [a, b, c, d] with
    | error fault =>
      rw [valued] at decoded
      nomatch decoded
    | ok vs =>
      rw [valued] at decoded
      cases behind : decodeGroups (offset + 4) (e :: rest) with
      | error fault =>
        rw [behind] at decoded
        nomatch decoded
      | ok others =>
        rw [behind] at decoded
        obtain rfl := Except.ok.inj decoded
        obtain ⟨group, small⟩ := eq_symbols_of_values valued
        have four : vs.length = 4 := by
          rw [← List.length_map symbol, ← group]
          rfl
        rw [encode_groupBytes_append small four, ← group, ← ih behind]
        rfl
  | case2 offset group short =>
    rw [decodeGroups] at decoded
    · exact eq_encode_of_decodeLast decoded
    · exact short

/-- What decodes is exactly what bytes are written as. -/
theorem decode_eq_ok_iff {symbols bytes : Bytes} :
    decode symbols = .ok bytes ↔ symbols = encode bytes := by
  constructor
  · intro decoded
    rw [decode] at decoded
    split at decoded
    · split at decoded
      · nomatch decoded
      · exact eq_encode_of_decodeGroups decoded
    · exact eq_encode_of_decodeGroups decoded
  · rintro rfl
    exact decode_encode bytes

theorem symbols_ascii {vs : List Nat} (small : ∀ v ∈ vs, v < 64) :
    ∀ b ∈ vs.map symbol, b.toNat < 0x80 := by
  intro b mem
  obtain ⟨v, v_mem, rfl⟩ := List.mem_map.mp mem
  exact symbol_lt v (small v v_mem)

theorem filling_ascii (missing : Nat) : ∀ b ∈ List.replicate missing pad, b.toNat < 0x80 := by
  intro b mem
  rw [List.eq_of_mem_replicate mem]
  decide

theorem encode_ascii (bytes : Bytes) : ∀ b ∈ encode bytes, b.toNat < 0x80 := by
  induction bytes using encode.induct with
  | case1 => simp [encode]
  | case2 a =>
    rw [encode_one, List.forall_mem_append]
    exact ⟨symbols_ascii (oneByte_lt a), filling_ascii 2⟩
  | case3 a b =>
    rw [encode_two, List.forall_mem_append]
    exact ⟨symbols_ascii (twoBytes_lt a b), filling_ascii 1⟩
  | case4 a b c rest ih =>
    rw [encode_three, List.forall_mem_append]
    exact ⟨symbols_ascii (threeBytes_lt a b c), ih⟩

/-- The symbols of bytes survive being the characters of a text. -/
theorem encode_symbols (bytes : Bytes) :
    Utf8.encode ((encode bytes).map fun b => Char.ofNat b.toNat) = encode bytes :=
  Utf8.encode_of_ascii (encode_ascii bytes)

end Rehearsal.Base64
