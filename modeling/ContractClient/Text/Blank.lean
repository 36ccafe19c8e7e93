/-!
# Blanks and line breaks

Names, type texts and docstrings of a contract are trimmed before they are
read, and generated text is re-indented line by line.  Both need a fixed notion
of a blank character and of a line break.  This module gives the two classes
and the trimming functions.

A *blank* is a character of Unicode white space, to which the four information
separators U+001C to U+001F are added.  The zero-width characters U+200B and
U+FEFF are not blank.  A *line break* is one of eleven characters.  Every line
break is a blank (`isBlank_of_isLineBreak`).  Around the digits of a number only
white space proper may stand, without the separators.

The functions work on lists of characters.  `strip`, `stripLeft` and
`stripRight` are their forms on strings.
-/

namespace ContractClient.Text

/-! ## The two classes -/

/-- Unicode white space, with the information separators U+001C to U+001F. -/
def isBlank (c : Char) : Bool :=
  let n := c.toNat
  (9 ≤ n && n ≤ 13) || (28 ≤ n && n ≤ 32) || n == 0x85 || n == 0xA0 || n == 0x1680 ||
    (0x2000 ≤ n && n ≤ 0x200A) || n == 0x2028 || n == 0x2029 || n == 0x202F ||
    n == 0x205F || n == 0x3000

/-- One of the information separators U+001C to U+001F. -/
def isSeparator (c : Char) : Bool := 28 ≤ c.toNat && c.toNat ≤ 31

/-- Unicode white space. -/
def isWhiteSpace (c : Char) : Bool := isBlank c && !isSeparator c

/-- The characters at which a text breaks into lines. -/
def isLineBreak (c : Char) : Bool :=
  let n := c.toNat
  (10 ≤ n && n ≤ 13) || (28 ≤ n && n ≤ 30) || n == 0x85 || n == 0x2028 || n == 0x2029

/-- A line break is a blank. -/
theorem isBlank_of_isLineBreak {c : Char} (h : isLineBreak c = true) : isBlank c = true := by
  simp only [isLineBreak, isBlank, Bool.or_eq_true, Bool.and_eq_true, decide_eq_true_eq,
    beq_iff_eq] at h ⊢
  omega

/-! ## Trimming -/

/-- Drops the blanks a text starts with. -/
def trimLeft (cs : List Char) : List Char := cs.dropWhile isBlank

/-- Drops the blanks a text ends with. -/
def trimRight (cs : List Char) : List Char := (cs.reverse.dropWhile isBlank).reverse

/-- Drops the blanks at both ends of a text. -/
def trim (cs : List Char) : List Char := trimRight (trimLeft cs)

/-- Drops the white space at both ends of a text. -/
def trimSpace (cs : List Char) : List Char :=
  ((cs.dropWhile isWhiteSpace).reverse.dropWhile isWhiteSpace).reverse

/-- `trimLeft` on strings. -/
def stripLeft (s : String) : String := .ofList (trimLeft s.toList)

/-- `trimRight` on strings. -/
def stripRight (s : String) : String := .ofList (trimRight s.toList)

/-- `trim` on strings. -/
def strip (s : String) : String := .ofList (trim s.toList)

end ContractClient.Text
