import ContractClient.Json.Reader
import ContractClient.Markup.Char

/-!
# Pieces of markup

Scanners for the small parts of markup: white space, names, literals,
references, comments and processing instructions.  A scanner takes the text
that is left and gives what it found and what is left then.  It gives nothing
where the grammar is violated.
-/

namespace ContractClient.Markup

/-- A function that reads something off the front of a text. -/
abbrev Scan (α : Type) := List Char → Option (α × List Char)

/-! ## White space, words and names -/

/-- Drops white space. -/
def skipSpace (cs : List Char) : List Char := cs.dropWhile isSpace

/-- Drops white space, of which there has to be some. -/
def space? (cs : List Char) : Option (List Char) :=
  match cs with
  | c :: rest => if isSpace c then some (skipSpace rest) else none
  | [] => none

/-- Drops a given word. -/
def word? (w : String) (cs : List Char) : Option (List Char) := Json.afterWord? w cs

/-- A name without a colon. -/
def ncName : Scan String := fun cs =>
  match cs with
  | c :: _ =>
    if isNameStart c then some (.ofList (cs.takeWhile isNameChar), cs.dropWhile isNameChar)
    else none
  | [] => none

/-- A run of name characters and colons, of which there has to be one. -/
def nmtoken : Scan String := fun cs =>
  let isToken (c : Char) : Bool := isNameChar c || c == ':'
  let token := cs.takeWhile isToken
  if token.isEmpty then none else some (.ofList token, cs.drop token.length)

/-- A name as written: a local part, and in front of it a space with a colon if
there is one. -/
structure QName where
  /-- The part before the colon, or the empty text. -/
  space : String := ""
  /-- The part after the colon. -/
  localName : String
  deriving DecidableEq, Repr

/-- A name with at most one colon. -/
def qName : Scan QName := fun cs => do
  let (first, rest) ← ncName cs
  match rest with
  | ':' :: rest =>
    let (second, rest) ← ncName rest
    return ({ space := first, localName := second }, rest)
  | rest => return ({ localName := first }, rest)

/-! ## Literals -/

/-- The characters between two quotes of one kind. -/
def quoted : Scan (List Char) := fun cs =>
  match cs with
  | q :: rest =>
    if q = '"' ∨ q = '\'' then
      let body := rest.takeWhile (· != q)
      match rest.dropWhile (· != q) with
      | _ :: rest => if body.all isLegal then some (body, rest) else none
      | [] => none
    else none
  | [] => none

/-- A character of a public identifier. -/
def isPublicChar (c : Char) : Bool :=
  c.isAlphanum || c == ' ' || c == '\n' || c == '\r' || "-'()+,./:=?;!*#@$_%".toList.contains c

/-- A public identifier between quotes. -/
def publicLiteral : Scan (List Char) := fun cs => do
  let (body, rest) ← quoted cs
  if body.all isPublicChar then some (body, rest) else none

/-! ## References -/

/-- What an ampersand introduces. -/
inductive Reference where
  /-- A character, by its number. -/
  | char (c : Char)
  /-- An entity, by its name. -/
  | entity (name : String)
  deriving DecidableEq, Repr

/-- The character of a number in a reference. -/
def referredChar? (n : Nat) : Option Char :=
  let c := Char.ofNat n
  if n < 0x110000 ∧ c.toNat = n ∧ n ≠ 0 ∧ isLegal c then some c else none

/-- The value of hexadecimal digits. -/
def hexValue (cs : List Char) : Nat :=
  cs.foldl (fun n c => 16 * n + (Json.hexValue? c).getD 0) 0

/-- A reference after its ampersand, up to and with its semicolon. -/
def reference : Scan Reference := fun cs =>
  match cs with
  | '#' :: 'x' :: rest =>
    let isHex (c : Char) : Bool := (Json.hexValue? c).isSome
    let digits := rest.takeWhile isHex
    match rest.dropWhile isHex with
    | ';' :: rest =>
      if digits.isEmpty then none
      else (referredChar? (hexValue digits)).map fun c => (.char c, rest)
    | _ => none
  | '#' :: rest =>
    let digits := rest.takeWhile Char.isDigit
    match rest.dropWhile Char.isDigit with
    | ';' :: rest =>
      if digits.isEmpty then none
      else (referredChar? (Json.digitsValue digits)).map fun c => (.char c, rest)
    | _ => none
  | cs => do
    let (name, rest) ← ncName cs
    let ';' :: rest := rest | none
    return (.entity name, rest)

/-- The entities every document has. -/
def predefined? (name : String) : Option Char :=
  match name with
  | "lt" => some '<'
  | "gt" => some '>'
  | "amp" => some '&'
  | "apos" => some '\''
  | "quot" => some '"'
  | _ => none

/-- A part of a literal. -/
inductive Piece where
  /-- A character that stands there itself. -/
  | plain (c : Char)
  /-- A reference. -/
  | ref (r : Reference)
  deriving DecidableEq, Repr

/-- Takes a literal apart into characters and references. -/
def pieces? : (fuel : Nat) → List Char → Option (List Piece)
  | 0, _ => none
  | _ + 1, [] => some []
  | fuel + 1, '&' :: cs => do
    let (r, rest) ← reference cs
    let ps ← pieces? fuel rest
    return .ref r :: ps
  | fuel + 1, c :: cs => (pieces? fuel cs).map (.plain c :: ·)

/-! ## Comments and processing instructions -/

/-- The rest of a text behind the first occurrence of a word, if the characters
before it are legal. -/
def behind? (w : List Char) : List Char → Option (List Char)
  | [] => none
  | c :: cs =>
    if w.isPrefixOf (c :: cs) then some ((c :: cs).drop w.length)
    else if isLegal c then behind? w cs else none

/-- The rest of a text behind a comment, whose opening is read already.  Two
hyphens end a comment and nothing else. -/
def comment? (cs : List Char) : Option (List Char) := do
  let rest ← behind? ['-', '-'] cs
  match rest with
  | '>' :: rest => some rest
  | _ => none

/-- The rest of a text behind a processing instruction, whose opening is read
already.  Its target is any name but `xml`. -/
def instruction? (cs : List Char) : Option (List Char) := do
  let (target, rest) ← ncName cs
  if target.toLower = "xml" then none
  else
    match rest with
    | '?' :: '>' :: rest => some rest
    | c :: rest => if isSpace c then behind? ['?', '>'] rest else none
    | [] => none

end ContractClient.Markup
