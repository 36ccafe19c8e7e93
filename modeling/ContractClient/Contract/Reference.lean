import ContractClient.Checked
import ContractClient.Json.Reader
import ContractClient.Text.Numeral
import ContractClient.Uri.Content

/-!
# References between parts of documents

A part of a JSON document may be a *reference*: a table with a text under the key
`$ref`.  It stands for another part, of the same document or of another one.
`resolveAll` puts every referred part in the place of its reference.

The text of a reference is an identifier, seen from the document it stands in.  Its
fragment is the way to the part: a list of keys and positions.  The way may lead
through other references.  A reference that leads to itself, or to nothing, is
*broken*.  References that lead to each other in a circle are *endless*, and so is a
document that is nested too deeply.

The text of a reference may be given by a reference itself.  Such an inner reference is
followed as soon as its document is read, when nothing can lead into that document
yet.  If it does not lead to a text, the table around it is no reference.

A part may hold a reference to itself.  It is unfolded as deep as a contract
goes, and no further.
-/

namespace ContractClient

/-- What a document holds. -/
inductive Document where
  /-- A value. -/
  | value (v : Value)
  /-- Nothing but a reference, to this value. -/
  | reference (v : Value)

namespace Reference

/-! ## Parts of documents -/

/-- A part of a document. -/
structure Part where
  /-- The identifier of the document. -/
  document : List Char
  /-- The steps that lead to the part. -/
  steps : List Step
  /-- The part as written. -/
  value : Value

/-- The same part of the same document. -/
def Part.isSame (p q : Part) : Bool :=
  Uri.usualForm? p.document = Uri.usualForm? q.document && p.steps = q.steps

/-- Why a reference does not give a part. -/
inductive RefFault where
  /-- It leads to nothing, or to itself. -/
  | broken
  /-- It leads on without end. -/
  | endless
  /-- Its text is no identifier. -/
  | invalid
  deriving DecidableEq, Repr

/-- The text of a reference, if a value is one. -/
def target? (v : Value) : Option String :=
  match v with
  | .table es =>
    match Entries.get? es "$ref" with
    | some (.text s) => some s
    | _ => none
  | _ => none

/-- The keys and positions on the way to a part. -/
def way (fragment : List Char) : List String :=
  let cs := fragment.dropWhile (· == '/')
  if cs.isEmpty then []
  else (Text.split ['/'] (Uri.unescape cs).toList).map fun part =>
    ((String.ofList part).replace "~1" "/").replace "~0" "~"

/-- The position that a text means in a list of some length.  A negative one
counts from the end. -/
def position? (part : String) (length : Nat) : Option Nat :=
  match Text.integer? part.toList with
  | some (.ofNat n) => if n < length then some n else none
  | some (.negSucc n) => if n < length then some (length - (n + 1)) else none
  | none => none

/-- One step into a part.  A text has its characters as parts. -/
def Part.into? (p : Part) (key : String) : Option Part :=
  match p.value with
  | .table es =>
    (Entries.get? es key).map fun v => { p with steps := p.steps ++ [.key key], value := v }
  | .list vs => do
    let i ← position? key vs.length
    let v ← vs[i]?
    return { p with steps := p.steps ++ [.index i], value := v }
  | .text s => do
    let i ← position? key s.length
    let c ← s.toList[i]?
    return { p with steps := p.steps ++ [.index i], value := .text (.singleton c) }
  | _ => none

/-! ## References in the place of a text -/

mutual

/-- A value in which every table with a reference in the place of a reference's text
gets the text, if there is one.  `early` follows the inner references. -/
def settle (early : List Step → Value → String → Except RefFault Value) (steps : List Step) :
    Value → Except RefFault Value
  | .table es => do
    let es ← settleEntries early steps es
    match Entries.get? es "$ref" with
    | none => return .table es
    | some inner =>
      match target? inner with
      | none => return .table es
      | some text =>
        match ← early (steps ++ [.key "$ref"]) inner text with
        | .text t => return .table (Entries.put es "$ref" (.text t))
        | _ => return .table es
  | .list vs => (settleItems early steps 0 vs).map .list
  | v => .ok v

/-- The same for the entries of a table. -/
def settleEntries (early : List Step → Value → String → Except RefFault Value)
    (steps : List Step) : List (String × Value) → Except RefFault (List (String × Value))
  | [] => .ok []
  | (k, v) :: es => do
    let w ← settle early (steps ++ [.key k]) v
    return (k, w) :: (← settleEntries early steps es)

/-- The same for the items of a list. -/
def settleItems (early : List Step → Value → String → Except RefFault Value)
    (steps : List Step) (i : Nat) : List Value → Except RefFault (List Value)
  | [] => .ok []
  | v :: vs => do
    let w ← settle early (steps ++ [.index i]) v
    return w :: (← settleItems early steps (i + 1) vs)

end

/-! ## Following a reference -/

/-- What references are resolved against: the document they start from, and the
files around it. -/
structure Setting where
  /-- The identifier of the document, without a fragment. -/
  base : List Char
  /-- The usual form of the identifier, if references can lead into the document. -/
  known : Option (List Char)
  /-- The document. -/
  root : Value
  /-- The files. -/
  files : FileTree

/-- How deeply a document may be nested. -/
def depthLimit : Nat := 490

/-- The text of the document with an identifier, as a value. -/
def Setting.read (s : Setting) (document : List Char) : Except RefFault Value := do
  let some bytes := Uri.content? s.files document | throw .broken
  let .ok text := Text.Utf8.decode bytes | throw .broken
  let .ok v := Json.parse text | throw .broken
  if depthLimit < v.depth then throw .endless
  return v

/-- Follows a chain of references this far before it counts as endless. -/
def chainLimit : Nat := 200

mutual

/-- The part that a reference leads to.  The part itself is no reference.  Nothing
leads into the documents that are still read. -/
def follow (s : Setting) : (fuel : Nat) → (inRead : List (List Char)) → (own : Part) → String →
    Except RefFault Part
  | 0, _, _, _ => .error .endless
  | fuel + 1, inRead, own, text => do
    let some joined := Uri.join? own.document text.toList | throw .invalid
    let some (document, fragment) := Uri.withoutFragment? joined | throw .invalid
    let whole ← documentAt s fuel inRead document
    let p ← walk s fuel inRead own whole (way fragment)
    if p.isSame own then throw .broken
    match target? p.value with
    | some next => follow s fuel inRead p next
    | none => return p

/-- The whole of the document with an identifier. -/
def documentAt (s : Setting) : (fuel : Nat) → (inRead : List (List Char)) → List Char →
    Except RefFault Part
  | 0, _, _ => .error .endless
  | fuel + 1, inRead, document => do
    let some form := Uri.usualForm? document | throw .invalid
    if form ∈ inRead then throw .broken
    if s.known = some form then return { document := s.base, steps := [], value := s.root }
    let v ← s.read document
    let early (steps : List Step) (v : Value) (text : String) : Except RefFault Value :=
      (follow s fuel (form :: inRead) { document, steps, value := v } text).map Part.value
    return { document, steps := [], value := ← settle early [] v }

/-- The part at the end of a way.  On the way references are followed.  A way
into the reference itself leads into the reference as written. -/
def walk (s : Setting) : (fuel : Nat) → (inRead : List (List Char)) → (own : Part) → Part →
    List String → Except RefFault Part
  | _, _, _, p, [] => .ok p
  | 0, _, _, _, _ :: _ => .error .endless
  | fuel + 1, inRead, own, p, key :: keys => do
    let inside ← match target? p.value with
      | some text => if p.isSame own then .ok p else follow s fuel inRead p text
      | none => .ok p
    match inside.into? key with
    | some q => walk s fuel inRead own q keys
    | none => .error .broken

end

/-- The part that a reference leads to, while some documents are still read. -/
def resolve (s : Setting) (inRead : List (List Char)) (p : Part) (text : String) :
    Except RefFault Part :=
  follow s (chainLimit + 2 * text.length) inRead p text

/-! ## Whole documents -/

/-- How deep a part that holds itself is unfolded. -/
def unfoldDepth : Nat := 8

mutual

/-- A value of a document with all references in it replaced.  `fuel` counts the
references that may still be opened inside each other, `depth` the steps from
the root, and `opened` holds the parts that are being put in place of a
reference. -/
def expand (s : Setting) (fuel depth : Nat) (opened : List Part) (document : List Char)
    (steps : List Step) (v : Value) : Except RefFault Value :=
  match target? v, fuel with
  | some _, 0 => .error .endless
  | some text, fuel + 1 => do
    let q ← resolve s [] { document, steps, value := v } text
    if unfoldDepth < depth ∧ opened.any q.isSame then .ok .null
    else expand s fuel depth (q :: opened) q.document q.steps q.value
  | none, fuel =>
    match v with
    | .table es => (expandEntries s fuel (depth + 1) opened document steps es).map .table
    | .list vs => (expandItems s fuel (depth + 1) opened document steps 0 vs).map .list
    | v => .ok v
termination_by (fuel, sizeOf v)

/-- The entries of a table with all references in them replaced. -/
def expandEntries (s : Setting) (fuel depth : Nat) (opened : List Part) (document : List Char)
    (steps : List Step) (es : List (String × Value)) : Except RefFault (List (String × Value)) :=
  match es with
  | [] => .ok []
  | (k, v) :: es => do
    let w ← expand s fuel depth opened document (steps ++ [.key k]) v
    let rest ← expandEntries s fuel depth opened document steps es
    return (k, w) :: rest
termination_by (fuel, sizeOf es)

/-- The items of a list with all references in them replaced. -/
def expandItems (s : Setting) (fuel depth : Nat) (opened : List Part) (document : List Char)
    (steps : List Step) (i : Nat) (vs : List Value) : Except RefFault (List Value) :=
  match vs with
  | [] => .ok []
  | v :: vs => do
    let w ← expand s fuel depth opened document (steps ++ [.index i]) v
    let rest ← expandItems s fuel depth opened document steps (i + 1) vs
    return w :: rest
termination_by (fuel, sizeOf vs)

end

/-- The document with all references in it replaced.  Its identifier may have a
fragment, and then nothing leads into it. -/
def resolveAll (files : FileTree) (identifier : List Char) (root : Value) :
    Except RefFault Document := do
  let some (base, fragment) := Uri.withoutFragment? identifier | throw .invalid
  if depthLimit < root.depth then throw .endless
  let some form := Uri.usualForm? base | throw .invalid
  let known := if fragment.isEmpty then some form else none
  let s : Setting := { base, known, root, files }
  let early (steps : List Step) (v : Value) (text : String) : Except RefFault Value :=
    (resolve s [form] { document := base, steps, value := v } text).map Part.value
  let settled ← settle early [] root
  let v ← expand { s with root := settled } chainLimit 0 [] base [] settled
  return if (target? settled).isSome then .reference v else .value v

end Reference

end ContractClient
