import ContractClient.Markup.Doctype
import ContractClient.Markup.Element

/-!
# Namespaces

A start tag carries names as they are written.  This module turns them into
names with namespaces.  Some attributes of a tag declare namespaces instead of
saying something about the element, and they are in force for the element itself
and for all that is below it.
-/

namespace ContractClient.Markup

/-- A start tag as written. -/
structure Tag where
  /-- The name. -/
  name : QName
  /-- The attributes with their values, in order. -/
  attributes : List (QName × String)
  deriving DecidableEq, Repr

/-- The namespace of names that belong to the grammar itself. -/
def grammarSpace : String := "http://www.w3.org/XML/1998/namespace"

/-- The namespace of declarations. -/
def declarationSpace : String := "http://www.w3.org/2000/xmlns/"

/-- The namespaces in force, innermost first.  The empty text stands for names
without a colon. -/
abbrev Scope := List (String × String)

namespace Scope

/-- The scope outside all elements. -/
def outermost : Scope := [("xml", grammarSpace)]

/-- The namespace of a written name, if it is bound. -/
def space? (s : Scope) (q : QName) : Option String :=
  (s.find? (·.1 = q.space)).map Prod.snd

/-- What an attribute declares: the part before the colon, and the namespace. -/
def declared? (a : QName × String) : Option (String × String) :=
  if a.1 = { localName := "xmlns" } then some ("", a.2)
  else if a.1.space = "xmlns" then some (a.1.localName, a.2)
  else none

/-- Whether a declaration keeps the rules.  The two namespaces of the grammar
cannot be given away, and a part before a colon cannot be unbound. -/
def isAllowed (p : String × String) : Bool :=
  p.1 != "xmlns" && (p.1 == "xml") == (p.2 == grammarSpace) && p.2 != declarationSpace &&
    (p.1 == "" || p.2 != "") && !p.2.toList.contains '\x7d'

/-- The scope inside an element with some attributes. -/
def enter? (s : Scope) (attributes : List (QName × String)) : Option Scope :=
  let ds := attributes.filterMap declared?
  if ds.all isAllowed then some (ds.reverse ++ s) else none

/-- The name of an element. -/
def elementName? (s : Scope) (q : QName) : Option Name :=
  match s.space? q with
  | some "" => some { localName := q.localName }
  | some space => some { space := some space, localName := q.localName }
  | none => if q.space = "" then some { localName := q.localName } else none

/-- The name of an attribute.  Without a colon it has no namespace. -/
def attributeName? (s : Scope) (q : QName) : Option Name :=
  if q.space = "" then some { localName := q.localName }
  else (s.space? q).map fun space => { space := some space, localName := q.localName }

end Scope

/-- The name and the attributes of an element, and the scope inside it.  Two
attributes of one element have different names, both as written and with their
namespaces. -/
def Tag.resolve? (t : Tag) (s : Scope) : Option (Name × List (Name × String) × Scope) := do
  let inner ← s.enter? t.attributes
  let name ← inner.elementName? t.name
  let own := t.attributes.filter fun a => (Scope.declared? a).isNone
  let attributes ← own.mapM fun a => (inner.attributeName? a.1).map fun n => (n, a.2)
  if (t.attributes.map Prod.fst).Nodup ∧ (attributes.map Prod.fst).Nodup then
    return (name, attributes, inner)
  else none

/-- A tag with the default values that the declarations add to it. -/
def Doctype.complete (d : Doctype) (t : Tag) : Tag :=
  let missing := d.attributes.filterMap fun a =>
    if a.element = t.name ∧ a.name ∉ t.attributes.map Prod.fst then
      a.default.map fun v => (a.name, v)
    else none
  { t with attributes := t.attributes ++ missing }

/-- Whether the values of an attribute are taken as running text. -/
def Doctype.isText (d : Doctype) (element name : QName) : Bool :=
  match d.attributes.find? fun a => a.element = element ∧ a.name = name with
  | some a => a.isText
  | none => true

end ContractClient.Markup
