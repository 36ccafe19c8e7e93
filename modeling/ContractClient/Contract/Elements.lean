import ContractClient.Contract.Basic
import ContractClient.Markup.Element

/-!
# Contracts in markup

A contract may be written in markup.  Classes, entries, services and functions
are elements, found at any depth below the element they belong to, whatever
their namespace is and whatever stands between.  The parameters and the results
of a function are two of its children.

The base of a class is an attribute, or the text of a child.  The attribute wins
even if it is empty.

The contract is given as a structured value, so that it goes through the same
check as any other.
-/

namespace ContractClient

open Markup

/-- A text, or null. -/
def Value.ofText? : Option String → Value
  | some s => .text s
  | none => .null

namespace Contract

/-- An entry. -/
def entryOfElement (e : Element) : Value :=
  .table [("name", .text (e.attributeOrEmpty "name")), ("type", .text (e.attributeOrEmpty "type"))]

/-- The entries at any depth of an element. -/
def entriesOfElement (e : Element) : Value := .list ((e.descendants "entry").map entryOfElement)

/-- The entries below the first child of a name. -/
def entriesOfChild (e : Element) (localName : String) : Value :=
  match e.child? localName with
  | some c => entriesOfElement c
  | none => .list []

/-- The base of a class. -/
def baseOfElement (e : Element) : Option String :=
  match e.attribute? "extends" with
  | some s => some s
  | none => (e.child? "extends").bind Element.text

/-- A class. -/
def classOfElement (e : Element) : Value :=
  .table [("name", .text (e.attributeOrEmpty "name")), ("extends", .ofText? (baseOfElement e)),
    ("entries", entriesOfElement e)]

/-- A function. -/
def functionOfElement (e : Element) : Value :=
  .table [("name", .text (e.attributeOrEmpty "name")),
    ("parameters", entriesOfChild e "parameters"), ("returns", entriesOfChild e "returns")]

/-- A service. -/
def serviceOfElement (e : Element) : Value :=
  .table [("name", .text (e.attributeOrEmpty "name")),
    ("functions", .list ((e.descendants "function").map functionOfElement))]

/-- The contract in a document. -/
def valueOfElement (root : Element) : Value :=
  .table [("classes", .list ((root.descendants "class").map classOfElement)),
    ("services", .list ((root.descendants "service").map serviceOfElement))]

end Contract

end ContractClient
