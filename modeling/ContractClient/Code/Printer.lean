import ContractClient.Code.Basic
import ContractClient.Text.Docstring

/-!
# Printing code

Each kind of code has a `render` function that gives its text.  A part that
stands inside another is rendered on its own and then indented as a whole.

Two details belong to the format.  A group in brackets whose text is empty is
written `Any`.  A class without any section has the body `pass`.
-/

namespace ContractClient.Code

/-! ## Texts -/

/-- Moves a text one level to the right. -/
def indent (s : String) : String := .ofList (Text.indent s.toList)

/-- Writes tabs as spaces. -/
def detab (s : String) : String := .ofList (Text.detab s.toList)

/-- Values by descending order.  Values of one order stay as they were. -/
def byOrder {α : Type} (items : List (Int × α)) : List α :=
  (items.mergeSort fun a b => decide (b.1 ≤ a.1)).map Prod.snd

/-- The text of an optional docstring.  An empty one counts as none. -/
def docstringSection : Option String → List String
  | some s => if s = "" then [] else [Text.docstring s]
  | none => []

/-! ## Expressions -/

mutual

/-- The text of an expression. -/
def Expr.render : Expr → String
  | .word s => s
  | .group none items => ", ".intercalate (Expr.renderAll items)
  | .group (some name) items =>
    let body := ", ".intercalate (Expr.renderAll items)
    if body = "" then "Any" else name ++ "[" ++ body ++ "]"

/-- The texts of a list of expressions. -/
def Expr.renderAll : List Expr → List String
  | [] => []
  | e :: es => e.render :: Expr.renderAll es

end

/-! ## Functions and classes -/

/-- The text of a parameter or field. -/
def Parameter.render (p : Parameter) : String :=
  p.name ++ (match p.type with | some t => ": " ++ t.render | none => "") ++
    (match p.default with | some d => " = " ++ d.render | none => "")

/-- The text of a block. -/
def Block.render (b : Block) : String := detab b.code

/-- The first line of a function, without its colon. -/
def Function.signature (f : Function) : String :=
  "def " ++ f.name ++ "(" ++ ", ".intercalate (f.parameters.map Parameter.render) ++ ")" ++
    (match f.response with | some r => if r = "" then "" else " -> " ++ r | none => "")

/-- The text of a function. -/
def Function.render (f : Function) : String :=
  f.signature ++ ":\n" ++
    indent ("\n".intercalate (docstringSection f.docstring ++ [f.code.render]))

/-- The sections of a class: its docstring, its fields, and then its blocks and
functions. -/
def Class.sections (c : Class) : List String :=
  let fields := byOrder (c.parameters.map fun p => (p.order, p.render))
  docstringSection c.docstring ++
    (if c.parameters.isEmpty then [] else ["\n".intercalate fields]) ++
    byOrder (c.blocks.map (fun b => (b.order, b.render)) ++
      c.functions.values.map fun f => (f.order, f.render))

/-- The first line of a class, without its colon. -/
def Class.heading (c : Class) : String :=
  "class " ++ c.name ++
    (if c.inherits.isEmpty then "" else "(" ++ ", ".intercalate c.inherits ++ ")")

/-- The text of a class. -/
def Class.render (c : Class) : String :=
  c.heading ++ ":\n" ++
    indent (if c.sections.isEmpty then "pass" else "\n\n".intercalate c.sections)

/-! ## Files -/

/-- The blocks and classes of a file in the order in which they are written. -/
def File.sections (f : File) : List String :=
  byOrder (f.blocks.map (fun b => (b.order, b.render)) ++
    f.classes.values.map fun c => (c.order, c.render))

/-- The text of a file.  Empty parts leave no gap. -/
def File.render (f : File) : String :=
  let parts :=
    ["\n".intercalate f.header, "\n".intercalate f.imports, "\n\n\n".intercalate f.sections]
  detab ("\n\n\n".intercalate (parts.filter (· ≠ ""))) ++ "\n"

end ContractClient.Code
