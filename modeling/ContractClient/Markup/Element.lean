/-!
# Elements

A document in markup is a tree of elements.  An element has a name, attributes,
the text in front of its first child, and children.  The text behind a child is
not kept, since no contract document uses it.

A name has a local part and may have a namespace.  An attribute is found by its
local part only if it has no namespace.
-/

namespace ContractClient.Markup

/-- A name with an optional namespace. -/
structure Name where
  /-- The namespace. -/
  space : Option String := none
  /-- The name inside the namespace. -/
  localName : String
  deriving DecidableEq, Repr

/-- An element with all that is below it. -/
inductive Element where
  | mk (name : Name) (attributes : List (Name × String)) (text : Option String)
      (children : List Element)

namespace Element

/-- The name of an element. -/
def name : Element → Name
  | mk n _ _ _ => n

/-- The attributes of an element. -/
def attributes : Element → List (Name × String)
  | mk _ as _ _ => as

/-- The text in front of the first child.  There is none if it is empty. -/
def text : Element → Option String
  | mk _ _ t _ => t

/-- The children of an element. -/
def children : Element → List Element
  | mk _ _ _ cs => cs

/-- The value of an attribute without a namespace. -/
def attribute? (e : Element) (key : String) : Option String :=
  (e.attributes.find? fun a => a.1 = { localName := key }).map Prod.snd

/-- The value of an attribute without a namespace, or the empty text. -/
def attributeOrEmpty (e : Element) (key : String) : String := (e.attribute? key).getD ""

mutual

/-- An element and all elements below it, in document order. -/
def all : Element → List Element
  | mk n as t cs => mk n as t cs :: allIn cs

/-- The elements of a list and all elements below them, in document order. -/
def allIn : List Element → List Element
  | [] => []
  | e :: es => all e ++ allIn es

end

/-- The elements with a local name among an element and all below it. -/
def descendants (e : Element) (localName : String) : List Element :=
  e.all.filter (·.name.localName = localName)

/-- The first child with a local name. -/
def child? (e : Element) (localName : String) : Option Element :=
  e.children.find? (·.name.localName = localName)

end Element

end ContractClient.Markup
