import ContractClient.Text.Blank

/-!
# Lines and pieces of texts

Generated code is built inside out: a method body is rendered flat and then
moved one level to the right, together with the class around it.  `indent`
moves a text, line by line, and leaves blank lines alone, so no line of the
result ends in added spaces.

A line keeps its break.  A carriage return followed by a line feed is one
break.  So the lines of a text joined together give the text back
(`flatten_splitLines`).

`detab` writes every tab as four spaces, which is one level of indentation.
`replace` and `joinWith` are the two plain list operations the printers need.
The readers split a text where a separator stands in it, at most so many times,
from left to right.
-/

namespace ContractClient.Text

/-! ## Splitting into lines -/

/-- Puts a character in front of the first line of a list of lines. -/
def consFirst (c : Char) : List (List Char) → List (List Char)
  | [] => [[c]]
  | l :: ls => (c :: l) :: ls

/-- The lines of a text, each with its break. -/
def splitLines : List Char → List (List Char)
  | [] => []
  | '\r' :: '\n' :: cs => ['\r', '\n'] :: splitLines cs
  | c :: cs => if isLineBreak c then [c] :: splitLines cs else consFirst c (splitLines cs)

/-- Joining what `consFirst` gives puts the character in front of the text. -/
theorem flatten_consFirst (c : Char) (ls : List (List Char)) :
    (consFirst c ls).flatten = c :: ls.flatten := by
  cases ls <;> simp [consFirst]

/-- The lines of a text, joined, are the text. -/
theorem flatten_splitLines (cs : List Char) : (splitLines cs).flatten = cs := by
  fun_induction splitLines cs <;> simp_all [flatten_consFirst]

/-! ## Indentation -/

/-- One level of indentation. -/
def level : List Char := [' ', ' ', ' ', ' ']

/-- Moves a line one level to the right, unless it holds blanks only. -/
def indentLine (line : List Char) : List Char :=
  if line.all isBlank then line else level ++ line

/-- Moves every line of a text one level to the right, blank lines excepted. -/
def indent (cs : List Char) : List Char := (splitLines cs).flatMap indentLine

/-- Writes every tab as one level of indentation. -/
def detab (cs : List Char) : List Char := cs.flatMap fun c => if c = '\t' then level else [c]

/-! ## Replacing and joining -/

/-- Replaces the leftmost occurrences of `old`, from left to right and without
overlap.  An empty `old` occurs nowhere. -/
def replace (old new : List Char) (cs : List Char) : List Char :=
  match cs with
  | [] => []
  | c :: rest =>
    if old.isPrefixOf (c :: rest) && !old.isEmpty then
      new ++ replace old new ((c :: rest).drop (max 1 old.length))
    else c :: replace old new rest
termination_by cs.length
decreasing_by
  · simp only [List.length_drop, List.length_cons]
    omega
  · simp only [List.length_cons]
    omega

/-- The texts in order, with a separator between neighbours. -/
def joinWith (sep : List Char) : List (List Char) → List Char
  | [] => []
  | [t] => t
  | t :: t' :: ts => t ++ sep ++ joinWith sep (t' :: ts)

/-! ## Splitting at a separator -/

/-- The text in front of the first separator, and the text behind it. -/
def breakAt? (sep : List Char) : List Char → Option (List Char × List Char)
  | [] => none
  | c :: cs =>
    if sep.isPrefixOf (c :: cs) then some ([], (c :: cs).drop sep.length)
    else (breakAt? sep cs).map fun (front, back) => (c :: front, back)

/-- The pieces of a text that is split at the first separators, so many at
most. -/
def splitUpTo (sep : List Char) : (count : Nat) → List Char → List (List Char)
  | 0, cs => [cs]
  | n + 1, cs =>
    match breakAt? sep cs with
    | none => [cs]
    | some (front, back) => front :: splitUpTo sep n back

/-- The pieces of a text that is split at every separator. -/
def split (sep cs : List Char) : List (List Char) := splitUpTo sep cs.length cs

/-- How often a separator stands in a text. -/
def countOf (sep cs : List Char) : Nat := (split sep cs).length - 1

/-- Whether a separator stands in a text. -/
def hasWithin (sep cs : List Char) : Bool := (breakAt? sep cs).isSome

end ContractClient.Text
