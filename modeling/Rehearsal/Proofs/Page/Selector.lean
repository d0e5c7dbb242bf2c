import Mathlib
import Rehearsal.Proofs.Page.Independence
import Rehearsal.Text.Hex

/-!
# Selectors as style sheets read them

The selector of an attribute with a value is a text, which whoever finds elements by it takes
apart again by the syntax of CSS. `attributeTest?` reads a text that way: line ends and
U+0000 are replaced first, a name may have escapes in it, and a string ends at its quote,
while a line end in it is an error. `stringToken_escaped` says what becomes of an escaped
value: it is read back if no line ends are in it, as these are not escaped.
-/

namespace Rehearsal.Css

open Text

/-- A character as the syntax sees it: other line ends are line feeds, and U+0000 is
replaced. -/
def normal (c : Char) : Char :=
  if c = '\r' || c = '\x0c' then '\n' else if c = '\x00' then '\uFFFD' else c

/-- A text as the syntax sees it. CR and LF together are one line end. -/
def normalized : List Char → List Char
  | [] => []
  | c :: rest =>
    if c = '\r' ∧ rest.head? = some '\n' then normalized rest else normal c :: normalized rest

/-- The white space of a text that is normalized. -/
def isSpace (c : Char) : Bool := c = '\n' || c = '\t' || c = ' '

/-- The character of hexadecimal digits. U+FFFD stands for everything that is none. -/
def digitsChar (digits : List Char) : Char :=
  let n := digits.foldl (fun n c => n * 16 + (hexValue? c).getD 0) 0
  if n ≠ 0 ∧ n.isValidChar then Char.ofNat n else '\uFFFD'

/-- The digits at the beginning of a text, six of them at most. -/
def escapeDigits (cs : List Char) : List Char :=
  (cs.take 6).takeWhile fun c => (hexValue? c).isSome

/-- The character of an escape, from what is behind the backslash: that of some digits, with
one white space behind them, or the next one, unless a line end or nothing is there. -/
def escape? (cs : List Char) : Option (Char × List Char) :=
  let digits := escapeDigits cs
  if digits.isEmpty then
    match cs with
    | [] => none
    | c :: rest => if c = '\n' then none else some (c, rest)
  else
    match cs.drop digits.length with
    | [] => some (digitsChar digits, [])
    | c :: rest => some (digitsChar digits, if isSpace c then rest else c :: rest)

/-- Letters, the underline, and everything beyond ASCII begin a name. -/
def isNameStart (c : Char) : Bool := c.isAlpha || c = '_' || 0x80 ≤ c.toNat

def isNameChar (c : Char) : Bool := isNameStart c || c.isDigit || c = '-'

theorem length_escapeDigits_le (cs : List Char) : (escapeDigits cs).length ≤ cs.length :=
  ((List.takeWhile_prefix _).trans (List.take_prefix 6 cs)).length_le

/-- An escape has at least one character. -/
theorem length_escape? {cs rest : List Char} {c : Char} (read : escape? cs = some (c, rest)) :
    rest.length < cs.length := by
  have fits := length_escapeDigits_le cs
  cases digits : escapeDigits cs with
  | nil =>
    simp only [escape?, digits, List.isEmpty_nil, if_true] at read
    split at read
    · nomatch read
    next first others =>
      split at read
      · nomatch read
      · obtain ⟨rfl, rfl⟩ := Prod.mk.inj (Option.some.inj read)
        exact Nat.lt_succ_self _
  | cons digit more =>
    have dropped : (cs.drop (more.length + 1)).length = cs.length - (more.length + 1) :=
      List.length_drop
    simp only [escape?, digits, List.isEmpty_cons, Bool.false_eq_true, if_false,
      List.length_cons] at read fits
    split at read
    next behind =>
      obtain ⟨rfl, rfl⟩ := Prod.mk.inj (Option.some.inj read)
      exact Nat.lt_of_lt_of_le (Nat.succ_pos _) fits
    next next others behind =>
      rw [behind, List.length_cons] at dropped
      obtain ⟨-, rfl⟩ := Prod.mk.inj (Option.some.inj read)
      split
      · omega
      · rw [List.length_cons]
        omega

/-- The characters of a name, and what is behind it. -/
def nameChars (cs : List Char) : List Char × List Char :=
  match cs with
  | [] => ([], [])
  | c :: rest =>
    if isNameChar c then (c :: (nameChars rest).1, (nameChars rest).2)
    else if c = '\\' then
      match h : escape? rest with
      | none => ([], c :: rest)
      | some (d, behind) =>
        have := length_escape? h
        (d :: (nameChars behind).1, (nameChars behind).2)
    else ([], c :: rest)
termination_by cs.length

/-- Whether a name begins here. -/
def beginsName : List Char → Bool
  | '-' :: '-' :: _ => true
  | '-' :: '\\' :: rest => (escape? rest).isSome
  | '-' :: c :: _ => isNameStart c
  | '\\' :: rest => (escape? rest).isSome
  | c :: _ => isNameStart c
  | [] => false

/-- The name that a text is. -/
def identifier? (text : List Char) : Option (List Char) :=
  let cs := normalized text
  if beginsName cs && (nameChars cs).2.isEmpty then some (nameChars cs).1 else none

/-- A string from behind its first quote up to its last one, and what is behind that. There is
none if the text ends before, or with a line end in it that has no backslash. -/
def stringToken (cs : List Char) : Option (List Char × List Char) :=
  match cs with
  | [] => none
  | '"' :: rest => some ([], rest)
  | '\n' :: _ => none
  | '\\' :: '\n' :: rest => stringToken rest
  | '\\' :: rest =>
    match h : escape? rest with
    | none => none
    | some (c, behind) =>
      have := length_escape? h
      (stringToken behind).map fun (s, rest) => (c :: s, rest)
  | c :: rest => (stringToken rest).map fun (s, rest) => (c :: s, rest)
termination_by cs.length

/-- What a selector asks of an element: that an attribute has exactly a value. -/
structure AttributeTest where
  name : List Char
  value : List Char
  deriving DecidableEq

/-- What is behind a mark and the white space in front of it. -/
def behind? (mark : Char) (cs : List Char) : Option (List Char) :=
  match cs.dropWhile isSpace with
  | [] => none
  | c :: rest => if c = mark then some rest else none

/-- The selector that a text is, of an attribute with a value that is a string in double
quotes. There is none if the text has an error in it, or is something else. -/
def attributeTest? (text : List Char) : Option AttributeTest := do
  let cs ← behind? '[' (normalized text)
  let cs := cs.dropWhile isSpace
  guard (beginsName cs = true)
  let (name, cs) := nameChars cs
  let cs ← behind? '=' cs
  let cs ← behind? '"' cs
  let (value, cs) ← stringToken cs
  let cs ← behind? ']' cs
  guard ((cs.dropWhile isSpace).isEmpty = true)
  return ⟨name, value⟩

/-! ### Line ends and U+0000 -/

/-- A line end, of any of the three characters. -/
def isLineEnd (c : Char) : Bool := c = '\n' || c = '\r' || c = '\x0c'

section Normalized

variable {front rest : List Char} {c : Char}

theorem normalized_cons (other : c ≠ '\r') :
    normalized (c :: rest) = normal c :: normalized rest := by
  rw [normalized, if_neg fun pair => other pair.1]

/-- Only a line feed is seen together with what is before it. -/
theorem normalized_append_cons (other : c ≠ '\n') :
    normalized (front ++ c :: rest) = normalized front ++ normalized (c :: rest) := by
  induction front with
  | nil => rfl
  | cons x front ih =>
    have next : (front ++ c :: rest).head? = some '\n' ↔ front.head? = some '\n' := by
      cases front with
      | nil => simpa using other
      | cons y front => rfl
    rw [List.cons_append, normalized, normalized, ih]
    simp only [next]
    split <;> rfl

theorem normal_of_plain (plain : isLineEnd c = false) :
    normal c = if c = '\x00' then '\uFFFD' else c := by
  simp only [isLineEnd, Bool.or_eq_false_iff, decide_eq_false_iff_not] at plain
  rw [normal, if_neg]
  simp [plain]

theorem normal_eq_lineFeed_iff : normal c = '\n' ↔ isLineEnd c = true := by
  cases plain : isLineEnd c with
  | false =>
    rw [normal_of_plain plain]
    constructor
    · intro h
      split at h
      · exact absurd h (by decide)
      · subst h
        exact absurd plain (by decide)
    · intro h
      nomatch h
  | true =>
    refine iff_of_true ?_ rfl
    simp only [isLineEnd, Bool.or_eq_true, decide_eq_true_eq] at plain
    obtain (rfl | rfl) | rfl := plain <;> rfl

theorem normal_eq_self_iff (plain : isLineEnd c = false) : normal c = c ↔ c ≠ '\x00' := by
  rw [normal_of_plain plain]
  constructor
  · rintro h rfl
    exact absurd h (by decide)
  · intro other
    exact if_neg other

/-- The text has a line end as the syntax sees it exactly if it has one. -/
theorem lineFeed_mem_normalized (text : List Char) :
    '\n' ∈ normalized text ↔ ∃ c ∈ text, isLineEnd c = true := by
  induction text with
  | nil => simp [normalized]
  | cons c text ih =>
    rw [normalized, List.exists_mem_cons_iff (isLineEnd · = true)]
    split
    next pair =>
      -- of the two line ends it is the second one that stays
      refine iff_of_true (ih.mpr ?_) (.inl (pair.1 ▸ rfl))
      exact ⟨'\n', List.mem_of_mem_head? pair.2, rfl⟩
    · rw [List.mem_cons, ih, eq_comm, normal_eq_lineFeed_iff]

theorem normalized_of_plain {text : List Char} (plain : ∀ c ∈ text, isLineEnd c = false) :
    normalized text = text.map normal := by
  induction text with
  | nil => rfl
  | cons c text ih =>
    obtain ⟨first, others⟩ := List.forall_mem_cons.mp plain
    rw [normalized_cons, ih others, List.map_cons]
    rintro rfl
    nomatch first

end Normalized

/-! ### The value -/

theorem head?_flatMap_selectorChar (value : List Char) :
    (value.flatMap selectorChar).head? = some '\n' ↔ value.head? = some '\n' := by
  cases value with
  | nil => rfl
  | cons c value =>
    rw [List.flatMap_cons]
    obtain ⟨special, escaped⟩ | ⟨plain, -, -⟩ := selectorChar_cases c
    · rw [escaped]
      obtain rfl | rfl := special <;> exact iff_of_false (by simp) (by simp)
    · rw [plain]
      rfl

theorem normal_of_special {c : Char} (special : c = '\\' ∨ c = '"') : normal c = c := by
  obtain rfl | rfl := special <;> rfl

theorem selectorChar_normal_of_plain {c : Char} (unescaped : c ≠ '\\') (unquoted : c ≠ '"') :
    selectorChar (normal c) = [normal c] := by
  rw [selectorChar, if_neg]
  rw [normal]
  split
  · decide
  · split
    · decide
    · simpa using ⟨unescaped, unquoted⟩

/-- To escape and to replace line ends are independent of each other. -/
theorem normalized_flatMap_selectorChar (value : List Char) :
    normalized (value.flatMap selectorChar) = (normalized value).flatMap selectorChar := by
  induction value with
  | nil => rfl
  | cons c value ih =>
    rw [List.flatMap_cons]
    obtain ⟨special, escaped⟩ | ⟨plain, unescaped, unquoted⟩ := selectorChar_cases c
    · have other : c ≠ '\r' := by rintro rfl; exact absurd special (by decide)
      rw [escaped, normalized_cons other, List.flatMap_cons, normal_of_special special, escaped,
        List.cons_append, List.cons_append, List.nil_append, normalized_cons (by decide),
        normalized_cons other, normal_of_special special, ih]
      rfl
    · -- a CR is seen together with what is behind it, which escaping leaves where it is
      rw [plain, List.singleton_append, normalized, normalized, ih]
      simp only [head?_flatMap_selectorChar]
      split
      · rfl
      · rw [List.flatMap_cons, selectorChar_normal_of_plain unescaped unquoted]
        rfl

theorem escape?_of_special {c : Char} (special : c = '\\' ∨ c = '"') (rest : List Char) :
    escape? (c :: rest) = some (c, rest) := by
  obtain rfl | rfl := special <;> rfl

/-- An escape in a string gives its character. -/
theorem stringToken_escape {c d : Char} {rest behind : List Char} (inside : c ≠ '\n')
    (read : escape? (c :: rest) = some (d, behind)) :
    stringToken ('\\' :: c :: rest) =
      (stringToken behind).map fun (s, rest) => (d :: s, rest) := by
  rw [stringToken]
  · split
    next failed => rw [read] at failed; nomatch failed
    next e others found =>
      rw [read] at found
      obtain ⟨rfl, rfl⟩ := Prod.mk.inj (Option.some.inj found)
      rfl
  · intro others lineFeed
    exact inside (List.cons.inj lineFeed).1

theorem stringToken_plain {c : Char} (unescaped : c ≠ '\\') (unquoted : c ≠ '"')
    (inside : c ≠ '\n') (rest : List Char) :
    stringToken (c :: rest) = (stringToken rest).map fun (s, rest) => (c :: s, rest) := by
  rw [stringToken]
  · exact unquoted
  · exact inside
  · intro _ backslash
    exact absurd backslash unescaped
  · exact unescaped

/-- An escaped value ends at its quote, and it has a string exactly if it has no line end. -/
theorem stringToken_escaped (value rest : List Char) :
    stringToken (value.flatMap selectorChar ++ '"' :: rest) =
      if '\n' ∈ value then none else some (value, rest) := by
  induction value with
  | nil => rw [List.flatMap_nil, List.nil_append, stringToken, if_neg List.not_mem_nil]
  | cons c value ih =>
    rw [List.flatMap_cons, List.append_assoc]
    obtain ⟨special, escaped⟩ | ⟨plain, unescaped, unquoted⟩ := selectorChar_cases c
    · have inside : '\n' ≠ c := by rintro rfl; exact absurd special (by decide)
      rw [escaped, List.cons_append, List.singleton_append,
        stringToken_escape inside.symm (escape?_of_special special _), ih]
      simp only [List.mem_cons, inside, false_or]
      split <;> rfl
    · rw [plain, List.singleton_append]
      obtain rfl | inside := eq_or_ne c '\n'
      · rw [stringToken, if_pos List.mem_cons_self]
      · rw [stringToken_plain unescaped unquoted inside, ih]
        simp only [List.mem_cons, inside.symm, false_or]
        split <;> rfl

/-! ### The name -/

section Name

variable {cs : List Char} {rest : List Char}

theorem takeWhile_take_append {p : Char → Bool} {stop : Char} (stops : p stop = false)
    (n : Nat) (cs rest : List Char) :
    ((cs ++ stop :: rest).take n).takeWhile p = (cs.take n).takeWhile p := by
  induction cs generalizing n with
  | nil =>
    cases n with
    | zero => rfl
    | succ n => simp [stops]
  | cons c cs ih =>
    cases n with
    | zero => rfl
    | succ n =>
      rw [List.cons_append, List.take_succ_cons, List.take_succ_cons, List.takeWhile_cons,
        List.takeWhile_cons, ih]

theorem escapeDigits_append (cs rest : List Char) :
    escapeDigits (cs ++ '=' :: rest) = escapeDigits cs :=
  takeWhile_take_append (by decide) 6 cs rest

/-- What is behind a name is behind its escapes. -/
theorem escape?_append {c : Char} {behind : List Char} (read : escape? cs = some (c, behind)) :
    escape? (cs ++ '=' :: rest) = some (c, behind ++ '=' :: rest) := by
  simp only [escape?, escapeDigits_append,
    List.drop_append_of_le_length (length_escapeDigits_le cs)] at read ⊢
  split at read
  next none =>
    rw [if_pos none]
    cases cs with
    | nil => nomatch read
    | cons x cs =>
      dsimp only at read
      rw [List.cons_append]
      dsimp only
      split at read
      · nomatch read
      next inside =>
        obtain ⟨rfl, rfl⟩ := Prod.mk.inj (Option.some.inj read)
        rw [if_neg inside]
  next some =>
    rw [if_neg some]
    cases dropped : cs.drop (escapeDigits cs).length with
    | nil =>
      rw [dropped] at read
      obtain ⟨rfl, rfl⟩ := Prod.mk.inj (Option.some.inj read)
      rfl
    | cons x others =>
      rw [dropped] at read
      obtain ⟨rfl, rfl⟩ := Prod.mk.inj (Option.some.inj read)
      rw [List.cons_append]
      dsimp only
      split <;> rfl

theorem nameChars_cons {c : Char} (inside : isNameChar c = true) :
    nameChars (c :: cs) = (c :: (nameChars cs).1, (nameChars cs).2) := by
  rw [nameChars, if_pos inside]

theorem nameChars_escape {c : Char} {behind : List Char} (read : escape? cs = some (c, behind)) :
    nameChars ('\\' :: cs) = (c :: (nameChars behind).1, (nameChars behind).2) := by
  rw [nameChars, if_neg (by decide), if_pos rfl]
  split
  next failed => rw [read] at failed; nomatch failed
  next found =>
    rw [read] at found
    obtain ⟨rfl, rfl⟩ := Prod.mk.inj (Option.some.inj found)
    rfl

/-- A name that is a whole text is a name in front of the equals sign. -/
theorem nameChars_append (whole : (nameChars cs).2 = []) :
    nameChars (cs ++ '=' :: rest) = ((nameChars cs).1, '=' :: rest) := by
  fun_induction nameChars cs with
  | case1 =>
    rw [List.nil_append, nameChars, if_neg (by decide), if_neg (by decide)]
  | case2 c cs inside ih =>
    rw [List.cons_append, nameChars_cons inside, ih whole]
  | case3 => nomatch whole
  | case4 cs c behind read _ _ ih =>
    rw [List.cons_append, nameChars_escape (escape?_append read), ih whole]
  | case5 => nomatch whole

theorem isSome_escape?_append (some : (escape? cs).isSome = true) :
    (escape? (cs ++ '=' :: rest)).isSome = true := by
  obtain ⟨⟨c, behind⟩, read⟩ := Option.isSome_iff_exists.mp some
  rw [escape?_append read]
  rfl

theorem beginsName_of_isNameStart {c : Char} (starts : isNameStart c = true) :
    beginsName (c :: cs) = true := by
  rw [beginsName]
  · exact starts
  · rintro _ rfl
    nomatch starts
  · rintro _ rfl
    nomatch starts
  · rintro _ _ rfl
    nomatch starts
  · rintro rfl
    nomatch starts

theorem not_isSpace_of_isNameStart {c : Char} (starts : isNameStart c = true) :
    ¬ isSpace c = true := by
  intro space
  simp only [isSpace, Bool.or_eq_true, decide_eq_true_eq] at space
  obtain (rfl | rfl) | rfl := space <;> exact absurd starts (by decide)

theorem beginsName_append (begins : beginsName cs = true) :
    beginsName (cs ++ '=' :: rest) = true := by
  unfold beginsName at begins
  split at begins
  · rfl
  next cs => exact isSome_escape?_append begins
  next c _ double escaped =>
    rw [List.cons_append, List.cons_append, beginsName]
    · exact begins
    · exact double
    · exact escaped
  next cs => exact isSome_escape?_append begins
  · exact beginsName_of_isNameStart begins
  · nomatch begins

theorem dropWhile_isSpace_of_beginsName (begins : beginsName cs = true) :
    cs.dropWhile isSpace = cs := by
  unfold beginsName at begins
  split at begins
  · rfl
  · rfl
  · rfl
  · rfl
  next c cs _ _ _ _ => exact List.dropWhile_cons_of_neg (not_isSpace_of_isNameStart begins)
  · rfl

end Name

theorem normalized_attributeSelector (name value : String) :
    normalized (attributeSelector name value).toList =
      '[' :: (normalized name.toList ++
        '=' :: '"' :: ((normalized value.toList).flatMap selectorChar ++ ['"', ']'])) := by
  rw [toList_attributeSelector, List.cons_append, normalized_cons (by decide),
    normalized_append_cons (by decide), normalized_cons (by decide), normalized_cons (by decide),
    normalized_append_cons (by decide), normalized_flatMap_selectorChar]
  rfl

theorem behind?_cons {mark : Char} {rest : List Char} (visible : ¬ isSpace mark = true) :
    behind? mark (mark :: rest) = some rest := by
  rw [behind?, List.dropWhile_cons_of_neg visible]
  exact if_pos rfl

/-- A selector is read as its name and what its string is. -/
theorem attributeTest?_eq {name value : String} {n : List Char}
    (named : identifier? name.toList = some n) :
    attributeTest? (attributeSelector name value).toList =
      if '\n' ∈ normalized value.toList then none else some ⟨n, normalized value.toList⟩ := by
  simp only [identifier?, Bool.and_eq_true, List.isEmpty_iff, Option.ite_none_right_eq_some,
    Option.some.injEq] at named
  obtain ⟨⟨begins, whole⟩, rfl⟩ := named
  rw [attributeTest?, normalized_attributeSelector, behind?_cons (by decide)]
  simp only [Option.bind_eq_bind, Option.bind_some]
  rw [dropWhile_isSpace_of_beginsName (beginsName_append begins), beginsName_append begins,
    nameChars_append whole]
  dsimp only
  rw [behind?_cons (by decide), Option.bind_some, behind?_cons (by decide), Option.bind_some,
    stringToken_escaped]
  split
  · rfl
  · rw [Option.bind_some, behind?_cons (by decide)]
    rfl

/-- A selector with a value is read as a test for just this value, with U+0000 replaced, unless
the value has a line end in it: then the string is broken, and there is no selector. So a value
is read back if it has neither. -/
theorem attributeSelector_read_back {name value : String} {n : List Char}
    (named : identifier? name.toList = some n) :
    attributeTest? (attributeSelector name value).toList =
        (if value.toList.any isLineEnd then none else some ⟨n, value.toList.map normal⟩) ∧
      (attributeTest? (attributeSelector name value).toList = some ⟨n, value.toList⟩ ↔
        ∀ c ∈ value.toList, isLineEnd c = false ∧ c ≠ '\x00') := by
  have ends : '\n' ∈ normalized value.toList ↔ value.toList.any isLineEnd = true := by
    rw [lineFeed_mem_normalized, List.any_eq_true]
  rw [attributeTest?_eq named]
  cases plain : value.toList.any isLineEnd with
  | true =>
    obtain ⟨c, mem, lineEnd⟩ := List.any_eq_true.mp plain
    rw [if_pos (ends.mpr plain)]
    refine ⟨rfl, iff_of_false nofun ?_⟩
    intro all
    exact absurd lineEnd (Bool.eq_false_iff.mp (all c mem).1)
  | false =>
    have others : ∀ c ∈ value.toList, isLineEnd c = false := by
      simpa using plain
    have unbroken : '\n' ∉ normalized value.toList := by
      intro found
      exact Bool.eq_false_iff.mp plain (ends.mp found)
    rw [if_neg unbroken, normalized_of_plain others]
    refine ⟨rfl, ?_⟩
    rw [Option.some.injEq, AttributeTest.mk.injEq, and_iff_right rfl]
    nth_rewrite 2 [← List.map_id value.toList]
    rw [List.map_inj_left]
    apply forall₂_congr
    intro c mem
    rw [and_iff_right (others c mem)]
    exact normal_eq_self_iff (others c mem)

/-- Quotes, backslashes and digits behind them in one value. -/
theorem attributeSelector_of_quoted_value :
    identifier? "data-element-id".toList = some "data-element-id".toList ∧
      attributeTest? (attributeSelector "data-element-id" "\\\\\"\\22 \\").toList =
        some ⟨"data-element-id".toList, "\\\\\"\\22 \\".toList⟩ := by
  have named : identifier? "data-element-id".toList = some "data-element-id".toList := by cbv
  refine ⟨named, (attributeSelector_read_back named).2.mpr ?_⟩
  simp [isLineEnd]

/-- A line end comes into the selector as it is. -/
theorem attributeSelector_of_broken_value :
    identifier? "x".toList = some "x".toList ∧
      attributeSelector "x" "a\nb" = "[x=\"a\nb\"]" ∧
      attributeTest? (attributeSelector "x" "a\nb").toList = none := by
  refine ⟨?_, ?_, ?_⟩ <;> cbv

end Rehearsal.Css
