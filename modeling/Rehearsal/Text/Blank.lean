/-!
# Blank characters

The characters with the Unicode property White_Space, and the two things that
a text is asked about them: what is left between the blanks at its ends, and
which words its blanks separate.
-/

namespace Rehearsal.Text

/-- The code points with the property White_Space: inclusive ranges, in order. -/
def blankRanges : List (Nat × Nat) :=
  [(0x09, 0x0d), (0x20, 0x20), (0x85, 0x85), (0xa0, 0xa0), (0x1680, 0x1680), (0x2000, 0x200a),
    (0x2028, 0x2029), (0x202f, 0x202f), (0x205f, 0x205f), (0x3000, 0x3000)]

/-- A blank character has the Unicode property White_Space. -/
def isBlank (c : Char) : Bool :=
  blankRanges.any fun range => range.1 ≤ c.toNat && c.toNat ≤ range.2

/-- The text without the blanks before its first other character. -/
def trimStart (s : List Char) : List Char := s.dropWhile isBlank

/-- The text without the blanks after its last other character. -/
def trimEnd (s : List Char) : List Char := (s.reverse.dropWhile isBlank).reverse

/-- The text between the blanks at its two ends. -/
def trim (s : List Char) : List Char := trimEnd (trimStart s)

/-- Holds of a text with nothing but blanks in it, the empty text among them. -/
def isAllBlank (s : List Char) : Bool := s.all isBlank

/-- No digit is blank. -/
theorem isBlank_of_isDigit {c : Char} (digit : c.isDigit = true) : isBlank c = false := by
  have first : '0'.toNat = 48 := rfl
  have last : '9'.toNat = 57 := rfl
  rw [Char.isDigit_iff_toNat, first, last] at digit
  simp [isBlank, blankRanges]
  omega

end Rehearsal.Text
