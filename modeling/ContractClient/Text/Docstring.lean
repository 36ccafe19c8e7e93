import ContractClient.Text.Lines

/-!
# Docstrings

A docstring is a text between triple quotation marks.  The text is trimmed.
Backslashes and runs of three quotation marks are escaped.  After that a
quotation mark at the very end is escaped, also if it was escaped before: then
the second backslash takes the first one, and the mark is open.  So the closing
marks are the first three that stand together unescaped only if the text does
not end in a run of three marks, or of six, and so on.  A docstring of more than
one line has its closing marks on a line of their own.
-/

namespace ContractClient.Text

/-- Three quotation marks. -/
def tripleQuote : List Char := ['"', '"', '"']

/-- Three quotation marks, each escaped. -/
def escapedTripleQuote : List Char := ['\\', '"', '\\', '"', '\\', '"']

/-- Escapes the quotation mark a text ends with. -/
def escapeLastQuote (cs : List Char) : List Char :=
  if cs.getLast? = some '"' then cs.dropLast ++ ['\\', '"'] else cs

/-- The escaped body of a docstring. -/
def docstringBody (cs : List Char) : List Char :=
  escapeLastQuote
    (trim (replace tripleQuote escapedTripleQuote
      (cs.flatMap fun c => if c = '\\' then ['\\', '\\'] else [c])))

/-- A text as a docstring. -/
def docstringChars (cs : List Char) : List Char :=
  let body := docstringBody cs
  tripleQuote ++ body ++ (if '\n' ∈ body then ['\n'] else []) ++ tripleQuote

/-- `docstringChars` on strings. -/
def docstring (s : String) : String := .ofList (docstringChars s.toList)

end ContractClient.Text
