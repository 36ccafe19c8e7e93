import ContractClient.Identifier.Continue
import ContractClient.Identifier.Start

/-!
# Identifiers

A name of the generated code is an identifier: a character that can start one,
followed by characters that can continue one.  This module holds the two
classes, the check, the keywords, and `normalize`, which turns any text into an
identifier or into nothing.

`normalize` drops every character that cannot stand in an identifier, then the
characters at the front that cannot start one, and last appends an underscore
if what is left is a keyword.
-/

namespace ContractClient.Identifier

/-! ## The two classes -/

/-- A character that can start an identifier. -/
def isStart (c : Char) : Bool :=
  c.isAlpha || c == '_' || (128 ≤ c.toNat && startRanges.contains c)

/-- A character that can continue an identifier. -/
def isContinue (c : Char) : Bool :=
  isStart c || c.isDigit || (128 ≤ c.toNat && continueRanges.contains c)

/-- A character that starts an identifier also continues one. -/
theorem isContinue_of_isStart {c : Char} (h : isStart c = true) : isContinue c = true := by
  simp [isContinue, h]

/-! ## The check -/

/-- Whether a text is an identifier. -/
def isIdentifierChars : List Char → Bool
  | [] => false
  | c :: cs => isStart c && cs.all isContinue

/-- `isIdentifierChars` on strings. -/
def isIdentifier (s : String) : Bool := isIdentifierChars s.toList

/-! ## Keywords -/

/-- The reserved words of the generated code. -/
def keywords : List String :=
  ["False", "None", "True", "and", "as", "assert", "async", "await", "break", "class",
   "continue", "def", "del", "elif", "else", "except", "finally", "for", "from", "global",
   "if", "import", "in", "is", "lambda", "nonlocal", "not", "or", "pass", "raise", "return",
   "try", "while", "with", "yield"]

/-- Whether a text is a reserved word. -/
def isKeyword (s : String) : Bool := keywords.contains s

/-! ## Normal form -/

/-- Drops the characters at the front that fail the test. -/
def dropUntil (p : Char → Bool) (cs : List Char) : List Char := cs.dropWhile fun c => !p c

/-- Appends an underscore to a reserved word. -/
def escapeKeyword (s : String) : String := if isKeyword s then s ++ "_" else s

/-- The identifier characters of a text, from the first that can start one. -/
def normalizeChars (cs : List Char) : List Char := dropUntil isStart (cs.filter isContinue)

/-- The identifier a text stands for, or the empty text if it has none. -/
def normalize (s : String) : String := escapeKeyword (.ofList (normalizeChars s.toList))

end ContractClient.Identifier
