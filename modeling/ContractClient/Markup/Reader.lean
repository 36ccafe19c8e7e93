import ContractClient.Markup.Namespace

/-!
# Reading markup

The reader turns a text into the tree of its root element, or says that the text
is not well-formed.  What an element holds is read by looking at the next
characters: the end of the element, a comment, a section of plain characters, a
processing instruction, another element, a reference or characters.  Comments
and processing instructions leave no trace, so the text on their two sides
joins.

An entity is read in its place: its replacement text has to be balanced content.
The counter of the reader bounds how deep rules call each other.  An entity that
refers to itself exhausts every bound, and so it is an error as it should be.
-/

namespace ContractClient.Markup

/-! ## Tags -/

/-- The attributes of a start tag up to its end, and whether the element is
closed there already. -/
def tagRest (d : Doctype) (element : QName) :
    (fuel : Nat) → Scan (List (QName × String) × Bool)
  | 0, _ => none
  | fuel + 1, cs =>
    match skipSpace cs with
    | '>' :: rest => some (([], false), rest)
    | '/' :: '>' :: rest => some (([], true), rest)
    | _ => do
      let rest ← space? cs
      let (name, rest) ← qName rest
      let '=' :: rest := skipSpace rest | none
      let (raw, rest) ← quoted (skipSpace rest)
      let value ← d.attributeValue? (d.isText element name) raw
      let ((more, closed), rest) ← tagRest d element fuel rest
      return (((name, value) :: more, closed), rest)

/-- A start tag behind its opening bracket. -/
def tag (d : Doctype) (fuel : Nat) : Scan (Tag × Bool) := fun cs => do
  let (name, rest) ← qName cs
  let ((attributes, closed), rest) ← tagRest d name fuel rest
  return ((d.complete { name, attributes }, closed), rest)

/-- The rest of a text behind an end tag of a given name. -/
def endTag? (name : QName) (cs : List Char) : Option (List Char) :=
  match cs with
  | '<' :: '/' :: rest => do
    let (found, rest) ← qName rest
    if found = name then declEnd? rest else none
  | _ => none

/-! ## Content -/

/-- What an element holds: the text in front of the first child, and the
children. -/
structure Content where
  /-- The text in front of the first child. -/
  text : List Char := []
  /-- The children. -/
  children : List Element := []

namespace Content

/-- One content behind another.  The text behind a child is dropped. -/
def append (a b : Content) : Content :=
  if a.children.isEmpty then { text := a.text ++ b.text, children := b.children }
  else { text := a.text, children := a.children ++ b.children }

/-- Content that is text. -/
def ofText (cs : List Char) : Content := { text := cs }

/-- Content that is one element. -/
def ofElement (e : Element) : Content := { children := [e] }

/-- The element with a name, attributes and this content. -/
def close (c : Content) (name : Name) (attributes : List (Name × String)) : Element :=
  .mk name attributes (if c.text.isEmpty then none else some (.ofList c.text)) c.children

end Content

/-- A character that stands for itself wherever it is in content. -/
def isPlain (c : Char) : Bool := isLegal c && c != '<' && c != '&' && c != ']'

/-- The characters up to the end of a plain section, and the rest behind it. -/
def section? : List Char → Option (List Char × List Char)
  | [] => none
  | c :: cs =>
    if "]]>".toList.isPrefixOf (c :: cs) then some ([], cs.drop 2)
    else if isLegal c then (section? cs).map fun (body, rest) => (c :: body, rest)
    else none

mutual

/-- The content of an element up to its end tag, or up to the end of the
text. -/
def content (d : Doctype) (s : Scope) : (fuel : Nat) → Scan Content
  | 0, _ => none
  | _ + 1, [] => some ({}, [])
  | _ + 1, '<' :: '/' :: rest => some ({}, '<' :: '/' :: rest)
  | fuel + 1, '<' :: '?' :: rest => do content d s fuel (← instruction? rest)
  | fuel + 1, '<' :: '!' :: rest =>
    match word? "--" rest, word? "[CDATA[" rest with
    | some rest, _ => do content d s fuel (← comment? rest)
    | _, some rest => do
      let (body, rest) ← section? rest
      let (more, rest) ← content d s fuel rest
      return ((Content.ofText body).append more, rest)
    | _, _ => none
  | fuel + 1, '<' :: rest => do
    let (e, rest) ← element d s fuel rest
    let (more, rest) ← content d s fuel rest
    return ((Content.ofElement e).append more, rest)
  | fuel + 1, '&' :: rest => do
    let (r, rest) ← reference rest
    let first ← match r with
      | .char c => some (.ofText [c])
      | .entity name => entityContent d s fuel name
    let (more, rest) ← content d s fuel rest
    return (first.append more, rest)
  | fuel + 1, ']' :: rest => do
    if "]>".toList.isPrefixOf rest then none
    let (more, rest) ← content d s fuel rest
    return ((Content.ofText [']']).append more, rest)
  | fuel + 1, c :: cs =>
    let body := (c :: cs).takeWhile isPlain
    if body.isEmpty then none
    else do
      let (more, rest) ← content d s fuel ((c :: cs).dropWhile isPlain)
      return ((Content.ofText body).append more, rest)

/-- What an entity stands for in content. -/
def entityContent (d : Doctype) (s : Scope) : (fuel : Nat) → String → Option Content
  | 0, _ => none
  | fuel + 1, name =>
    match predefined? name, d.entities.get? name with
    | some c, _ => some (.ofText [c])
    | none, some (.internal text) => do
      let (c, rest) ← content d s fuel text
      if rest.isEmpty then some c else none
    | none, _ => none

/-- An element behind its opening bracket. -/
def element (d : Doctype) (s : Scope) : (fuel : Nat) → Scan Element
  | 0, _ => none
  | fuel + 1, cs => do
    let ((t, closed), rest) ← tag d fuel cs
    let (name, attributes, inner) ← t.resolve? s
    if closed then return (({} : Content).close name attributes, rest)
    let (c, rest) ← content d inner fuel rest
    return (c.close name attributes, ← endTag? t.name rest)

end

/-! ## Documents -/

/-- The end of every line as a line feed. -/
def unifyLineEnds : List Char → List Char
  | [] => []
  | '\r' :: '\n' :: cs => '\n' :: unifyLineEnds cs
  | '\r' :: cs => '\n' :: unifyLineEnds cs
  | c :: cs => c :: unifyLineEnds cs

/-- The value of a part of the declaration at the start of a document. -/
def declarationPart (key : String) : Scan (List Char) := fun cs => do
  let rest ← space? cs
  let rest ← word? key rest
  let '=' :: rest := skipSpace rest | none
  let (value, rest) ← quoted (skipSpace rest)
  if value.all fun c => c.isAlphanum || c == '.' || c == '-' || c == '_' then some (value, rest)
  else none

/-- The part of the declaration that says whether the document stands alone. -/
def standalonePart (cs : List Char) : Option (Bool × List Char) :=
  match declarationPart "standalone" cs with
  | some (value, rest) =>
    if value = "yes".toList then some (true, rest)
    else if value = "no".toList then some (false, rest)
    else none
  | none => some (false, cs)

/-- The declaration at the start of a document, behind its opening.  It says
whether the document stands alone. -/
def xmlDeclaration : Scan Bool := fun cs => do
  let (_, rest) ← declarationPart "version" cs
  let rest ← match declarationPart "encoding" rest with
    | some (value, after) => if (value.head?.map Char.isAlpha).getD false then some after else none
    | none => some rest
  let (alone, rest) ← standalonePart rest
  let rest ← word? "?>" (skipSpace rest)
  return (alone, rest)

/-- Drops white space, comments and processing instructions. -/
def misc? : (fuel : Nat) → List Char → Option (List Char)
  | 0, _ => none
  | fuel + 1, cs =>
    match skipSpace cs with
    | '<' :: '?' :: rest => do misc? fuel (← instruction? rest)
    | '<' :: '!' :: '-' :: '-' :: rest => do misc? fuel (← comment? rest)
    | rest => some rest

/-- The type declaration of a document if there is one, and what follows. -/
def prolog (alone : Bool) : Scan Doctype := fun cs => do
  let rest ← misc? (cs.length + 1) cs
  match word? "<!DOCTYPE" rest with
  | some rest =>
    let (d, rest) ← doctype { isStandalone := alone } rest
    return (d, ← misc? (rest.length + 1) rest)
  | none => return ({}, rest)

/-- A bound on how deep the rules for content call each other. -/
def Doctype.bound (d : Doctype) (cs : List Char) : Nat :=
  d.entities.foldl (fun n e => match e.2 with
    | .internal text => n + 2 * text.length + 2
    | .outside => n) (2 * cs.length + 2)

/-- A whole document without its byte order mark, with unified line ends.  It is
refused if its entities stand for too much. -/
def documentChars? (cs : List Char) : Option Element := do
  let (alone, rest) ← match word? "<?xml" cs with
    | some (c :: rest) => if isSpace c then xmlDeclaration (c :: rest) else some (false, cs)
    | _ => some (false, cs)
  let (d, rest) ← prolog alone rest
  if Doctype.isExcessive cs (d.weightIn rest) then none
  let '<' :: rest := rest | none
  let (root, rest) ← element d .outermost (d.bound rest) rest
  let rest ← misc? (rest.length + 1) rest
  if rest.isEmpty then some root else none

/-- The root element of a text, if the text is well-formed. -/
def parse? (text : String) : Option Element :=
  let cs := unifyLineEnds text.toList
  documentChars? (if cs.head? = some '\ufeff' then cs.tail else cs)

end ContractClient.Markup
