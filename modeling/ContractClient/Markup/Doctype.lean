import ContractClient.Entries
import ContractClient.Markup.Scan

/-!
# Document type declarations

A document may declare entities and default attributes in front of its root.
This module reads the declaration and keeps what the content of the document can
see of it: the replacement texts of the entities, the default values of the
attributes, and whether attribute values are normalized as tokens.

Entities may refer to each other, so a short document can stand for a long one.  The
*weight* of an entity counts what is read when it is put in its place.  A document
with too much of it is refused before anything is put in place.

External parts are not fetched.  If a part of the declarations is out of reach
and the document does not stand alone, an unknown entity in an attribute value
counts as empty.  Behind a reference to such a part, the values of declarations
are not looked at any more.
-/

namespace ContractClient.Markup

/-! ## What a declaration gives -/

/-- What an entity stands for. -/
inductive Entity where
  /-- A replacement text. -/
  | internal (text : List Char)
  /-- Something outside the document. -/
  | outside
  deriving DecidableEq, Repr

/-- A declared attribute. -/
structure AttributeDecl where
  /-- The element it belongs to. -/
  element : QName
  /-- The name. -/
  name : QName
  /-- Whether values are taken as running text. -/
  isText : Bool
  /-- The default value. -/
  default : Option String
  deriving DecidableEq, Repr

/-- What the content of a document sees of its type declaration. -/
structure Doctype where
  /-- The entities. -/
  entities : Entries Entity := []
  /-- The attributes, oldest declaration first. -/
  attributes : List AttributeDecl := []
  /-- Whether a part of the declarations is out of reach. -/
  isPartial : Bool := false
  /-- Whether such a part was referred to among the declarations. -/
  isInterrupted : Bool := false
  /-- Whether the document says that it stands alone. -/
  isStandalone : Bool := false

namespace Doctype

/-- Whether an unknown entity is an error. -/
def isComplete (d : Doctype) : Bool := !d.isPartial || d.isStandalone

/-- Whether the values of declarations are looked at. -/
def isKeeping (d : Doctype) : Bool := !d.isInterrupted || d.isStandalone

/-- Adds an entity, unless there is one of that name. -/
def addEntity (d : Doctype) (name : String) (e : Entity) : Doctype :=
  if d.isKeeping then { d with entities := d.entities.putNew name e } else d

/-- Adds an attribute, unless its element has one of that name. -/
def addAttribute (d : Doctype) (a : AttributeDecl) : Doctype :=
  if d.isKeeping && !d.attributes.any (fun b => b.element = a.element ∧ b.name = a.name) then
    { d with attributes := d.attributes ++ [a] }
  else d

/-! ## Weights -/

/-- The entities that a text refers to, each as often as it does.  Comments, plain
sections and processing instructions refer to nothing. -/
def referredIn : (fuel : Nat) → List Char → List String
  | 0, _ | _, [] => []
  | fuel + 1, '&' :: cs =>
    match reference cs with
    | some (.entity name, rest) => name :: referredIn fuel rest
    | some (.char _, rest) => referredIn fuel rest
    | none => referredIn fuel cs
  | fuel + 1, '<' :: cs =>
    let skipped := match word? "!--" cs, word? "![CDATA[" cs, cs with
      | some rest, _, _ => behind? "-->".toList rest
      | _, some rest, _ => behind? "]]>".toList rest
      | _, _, '?' :: rest => behind? "?>".toList rest
      | _, _, _ => none
    referredIn fuel (skipped.getD cs)
  | fuel + 1, _ :: cs => referredIn fuel cs

/-- The number of bytes of a text. -/
def byteCount (cs : List Char) : Nat := cs.foldl (fun n c => n + c.utf8Size) 0

/-- The weight of all that a text refers to, under given weights of the entities. -/
def weightUnder (weights : Entries Nat) (cs : List Char) : Nat :=
  (referredIn cs.length cs).foldl (fun n name =>
    if (predefined? name).isSome then n else n + (weights.get? name).getD 0) 0

/-- The weights of the entities, as far as references lead through `depth` others. -/
def weightsTo (d : Doctype) : (depth : Nat) → Entries Nat
  | 0 => []
  | depth + 1 =>
    let known := d.weightsTo depth
    d.entities.map fun (name, e) =>
      match e with
      | .internal text => (name, byteCount text + weightUnder known text)
      | .outside => (name, 0)

/-- The weight of all that a text refers to. -/
def weightIn (d : Doctype) (cs : List Char) : Nat :=
  if d.entities.isEmpty then 0 else weightUnder (d.weightsTo d.entities.length) cs

/-- The number of bytes a document can always stand for. -/
def freeWeight : Nat := 8388608

/-- How many times its own length a document can always stand for. -/
def growthLimit : Nat := 100

/-- Whether a weight is too much for a document. -/
def isExcessive (document : List Char) (weight : Nat) : Bool :=
  let own := byteCount document
  freeWeight ≤ own + weight && growthLimit * own < own + weight

/-! ## Attribute values -/

/-- The replacement text of the pieces of an attribute value.  White space becomes
a space each, unless it comes from a reference to a character.  `inner` is for the
text of an entity that is referred to. -/
def expandPieces (d : Doctype) (inner : List Char → Option (List Char)) :
    List Piece → Option (List Char)
  | [] => some []
  | .plain c :: ps => do
    if c = '<' then none
    let rest ← expandPieces d inner ps
    return (if isSpace c then ' ' else c) :: rest
  | .ref (.char c) :: ps => do
    let rest ← expandPieces d inner ps
    return c :: rest
  | .ref (.entity name) :: ps => do
    let rest ← expandPieces d inner ps
    match predefined? name, d.entities.get? name with
    | some c, _ => return c :: rest
    | none, some (.internal text) =>
      let value ← inner text
      return value ++ rest
    | none, some _ => none
    | none, none => if d.isComplete then none else return rest

/-- The replacement text of an attribute value.  `depth` bounds how far entities
may refer to each other. -/
def expandValue (d : Doctype) : (depth : Nat) → List Piece → Option (List Char)
  | 0, ps => d.expandPieces (fun _ => none) ps
  | depth + 1, ps =>
    d.expandPieces (fun text => (pieces? (text.length + 1) text).bind (d.expandValue depth)) ps

/-- Drops spaces at the ends of a value and keeps one of each run of spaces. -/
def collapse (cs : List Char) : List Char :=
  [' '].intercalate ((cs.splitOn ' ').filter (!·.isEmpty))

/-- The value of an attribute from the characters between its quotes. -/
def attributeValue? (d : Doctype) (isText : Bool) (raw : List Char) : Option String := do
  let ps ← pieces? (raw.length + 1) raw
  let value ← d.expandValue (d.entities.length + 1) ps
  return .ofList (if isText then value else collapse value)

end Doctype

/-! ## Entity declarations -/

/-- The replacement text of an entity.  References to characters are replaced,
references to entities are kept. -/
def replacement : List Piece → List Char
  | [] => []
  | .plain c :: ps => c :: replacement ps
  | .ref (.char c) :: ps => c :: replacement ps
  | .ref (.entity name) :: ps => '&' :: name.toList ++ ';' :: replacement ps

/-- The value of an entity between quotes.  A percent sign has no place in
it. -/
def entityValue (d : Doctype) : Scan Entity := fun cs => do
  let (body, rest) ← quoted cs
  if !d.isKeeping then return (.outside, rest)
  else if body.contains '%' then none
  else
    let ps ← pieces? (body.length + 1) body
    return (.internal (replacement ps), rest)

/-- An external identifier, with or without the system part. -/
def externalId (needsSystem : Bool) : Scan Unit := fun cs =>
  match word? "SYSTEM" cs with
  | some rest => do
    let rest ← space? rest
    let (_, rest) ← quoted rest
    return ((), rest)
  | none => do
    let rest ← word? "PUBLIC" cs
    let rest ← space? rest
    let (_, rest) ← publicLiteral rest
    match space? rest with
    | some after =>
      match quoted after with
      | some (_, rest) => return ((), rest)
      | none => if needsSystem then none else return ((), rest)
    | none => if needsSystem then none else return ((), rest)

/-- The end of a declaration. -/
def declEnd? (cs : List Char) : Option (List Char) :=
  match skipSpace cs with
  | '>' :: rest => some rest
  | _ => none

/-- The notation of an entity that is no text. -/
def notationPart : Scan Unit := fun cs =>
  match space? cs with
  | some rest =>
    match word? "NDATA" rest with
    | some rest => do
      let rest ← space? rest
      let (_, rest) ← ncName rest
      return ((), rest)
    | none => some ((), cs)
  | none => some ((), cs)

/-- An entity declaration behind its keyword. -/
def entityDecl (d : Doctype) : Scan Doctype := fun cs => do
  let rest ← space? cs
  match rest with
  | '%' :: rest =>
    let rest ← space? rest
    let (_, rest) ← ncName rest
    let rest ← space? rest
    match entityValue d rest with
    | some (_, rest) => return (d, ← declEnd? rest)
    | none =>
      let (_, rest) ← externalId true rest
      return (d, ← declEnd? rest)
  | rest =>
    let (name, rest) ← ncName rest
    let rest ← space? rest
    match entityValue d rest with
    | some (e, rest) => return (d.addEntity name e, ← declEnd? rest)
    | none =>
      let (_, rest) ← externalId true rest
      let (_, rest) ← notationPart rest
      return (d.addEntity name .outside, ← declEnd? rest)

/-! ## Element and attribute declarations -/

/-- Drops an occurrence mark if there is one. -/
def skipOccurrence : List Char → List Char
  | c :: rest => if c = '?' ∨ c = '*' ∨ c = '+' then rest else c :: rest
  | [] => []

mutual

/-- A part of a content model: a name or a group, with an occurrence mark. -/
def modelPart? : (fuel : Nat) → List Char → Option (List Char)
  | 0, _ => none
  | fuel + 1, '(' :: rest => do
    let rest ← modelPart? fuel (skipSpace rest)
    let rest ← modelRest? fuel none (skipSpace rest)
    return skipOccurrence rest
  | _ + 1, cs => do
    let (_, rest) ← qName cs
    return skipOccurrence rest

/-- The rest of a group, all of whose parts are divided by one mark. -/
def modelRest? : (fuel : Nat) → Option Char → List Char → Option (List Char)
  | 0, _, _ => none
  | _ + 1, _, ')' :: rest => some rest
  | fuel + 1, mark, c :: rest => do
    if (c = ',' ∨ c = '|') ∧ (mark = none ∨ mark = some c) then
      let rest ← modelPart? fuel (skipSpace rest)
      modelRest? fuel (some c) (skipSpace rest)
    else none
  | _ + 1, _, [] => none

end

/-- The rest of a mixed content model behind its first word. -/
def mixedRest? : (fuel : Nat) → (named : Bool) → List Char → Option (List Char)
  | 0, _, _ => none
  | _ + 1, named, ')' :: rest =>
    match rest with
    | '*' :: rest => some rest
    | rest => if named then none else some rest
  | fuel + 1, _, '|' :: rest => do
    let (_, rest) ← qName (skipSpace rest)
    mixedRest? fuel true (skipSpace rest)
  | _ + 1, _, _ => none

/-- A content model. -/
def contentModel? (cs : List Char) : Option (List Char) :=
  match word? "EMPTY" cs, word? "ANY" cs, cs with
  | some rest, _, _ => some rest
  | _, some rest, _ => some rest
  | _, _, '(' :: rest =>
    match word? "#PCDATA" (skipSpace rest) with
    | some rest => mixedRest? (cs.length + 1) false (skipSpace rest)
    | none => modelPart? (2 * cs.length + 2) cs
  | _, _, _ => none

/-- An element declaration behind its keyword. -/
def elementDecl? (cs : List Char) : Option (List Char) := do
  let rest ← space? cs
  let (_, rest) ← qName rest
  let rest ← space? rest
  let rest ← contentModel? rest
  declEnd? rest

/-- The rest of an enumeration behind one of its items. -/
def enumeration? (item : Scan String) : (fuel : Nat) → List Char → Option (List Char)
  | 0, _ => none
  | fuel + 1, cs => do
    let (_, rest) ← item (skipSpace cs)
    match skipSpace rest with
    | ')' :: rest => some rest
    | '|' :: rest => enumeration? item fuel rest
    | _ => none

/-- The type of an attribute, and whether values are taken as running text. -/
def attributeType : Scan Bool := fun cs =>
  match cs with
  | '(' :: rest => (enumeration? nmtoken (rest.length + 1) rest).map (false, ·)
  | cs => do
    let (w, rest) ← nmtoken cs
    if w = "CDATA" then return (true, rest)
    else if ["ID", "IDREF", "IDREFS", "ENTITY", "ENTITIES", "NMTOKEN", "NMTOKENS"].contains w then
      return (false, rest)
    else if w = "NOTATION" then
      let rest ← space? rest
      let '(' :: rest := rest | none
      (enumeration? ncName (rest.length + 1) rest).map (false, ·)
    else none

/-- The default of an attribute. -/
def attributeDefault (d : Doctype) (isText : Bool) : Scan (Option String) := fun cs =>
  match word? "#REQUIRED" cs, word? "#IMPLIED" cs, word? "#FIXED" cs with
  | some rest, _, _ => some (none, rest)
  | _, some rest, _ => some (none, rest)
  | _, _, fixed => do
    let rest ← match fixed with
      | some rest => space? rest
      | none => some cs
    let (raw, rest) ← quoted rest
    if !d.isKeeping then return (none, rest)
    if Doctype.freeWeight ≤ d.weightIn raw then none
    let value ← d.attributeValue? isText raw
    return (some value, rest)

/-- The attributes of an attribute list, up to the end of the declaration. -/
def attributeDecls (element : QName) : (fuel : Nat) → Doctype → Scan Doctype
  | 0, _, _ => none
  | fuel + 1, d, cs =>
    match declEnd? cs with
    | some rest => some (d, rest)
    | none => do
      let rest ← space? cs
      let (name, rest) ← qName rest
      let rest ← space? rest
      let (isText, rest) ← attributeType rest
      let rest ← space? rest
      let (default, rest) ← attributeDefault d isText rest
      attributeDecls element fuel (d.addAttribute { element, name, isText, default }) rest

/-- An attribute list behind its keyword. -/
def attributeList (d : Doctype) : Scan Doctype := fun cs => do
  let rest ← space? cs
  let (element, rest) ← qName rest
  attributeDecls element (rest.length + 1) d rest

/-- A notation declaration behind its keyword. -/
def notationDecl? (cs : List Char) : Option (List Char) := do
  let rest ← space? cs
  let (_, rest) ← ncName rest
  let rest ← space? rest
  let (_, rest) ← externalId false rest
  declEnd? rest

/-! ## The whole declaration -/

/-- The declarations between the brackets, up to and with the closing one. -/
def internalSubset : (fuel : Nat) → Doctype → Scan Doctype
  | 0, _, _ => none
  | fuel + 1, d, cs =>
    let cs := skipSpace cs
    match cs with
    | ']' :: rest => some (d, rest)
    | '%' :: rest => do
      let (_, rest) ← ncName rest
      let ';' :: rest := rest | none
      internalSubset fuel { d with isPartial := true, isInterrupted := true } rest
    | '<' :: '?' :: rest => do internalSubset fuel d (← instruction? rest)
    | '<' :: '!' :: '-' :: '-' :: rest => do internalSubset fuel d (← comment? rest)
    | '<' :: '!' :: rest =>
      match word? "ENTITY" rest, word? "ELEMENT" rest, word? "ATTLIST" rest,
          word? "NOTATION" rest with
      | some rest, _, _, _ => do
        let (d, rest) ← entityDecl d rest
        internalSubset fuel d rest
      | _, some rest, _, _ => do internalSubset fuel d (← elementDecl? rest)
      | _, _, some rest, _ => do
        let (d, rest) ← attributeList d rest
        internalSubset fuel d rest
      | _, _, _, some rest => do internalSubset fuel d (← notationDecl? rest)
      | _, _, _, _ => none
    | _ => none

/-- The end of a type declaration, with the part between brackets if there is
one. -/
def doctypeEnd (d : Doctype) (cs : List Char) : Option (Doctype × List Char) :=
  match skipSpace cs with
  | '[' :: rest => do
    let (d, rest) ← internalSubset (rest.length + 1) d rest
    return (d, ← declEnd? rest)
  | '>' :: rest => some (d, rest)
  | _ => none

/-- A type declaration behind its keyword. -/
def doctype (d : Doctype) : Scan Doctype := fun cs => do
  let rest ← space? cs
  let (_, rest) ← qName rest
  match space? rest with
  | some after =>
    match externalId true after with
    | some (_, rest) => doctypeEnd { d with isPartial := true } rest
    | none => doctypeEnd d rest
  | none => doctypeEnd d rest

end ContractClient.Markup
