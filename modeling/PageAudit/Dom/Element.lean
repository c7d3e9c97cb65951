import PageAudit.Dom.Node

/-!
# Elements in their place

An `Element` is an element of a page together with where it stands: its number in document order,
counted from zero, and the names of the elements around it, innermost first. `elements` lists all
of them, those inside templates included; `Element.isLive` tells whether a template encloses one.

`Node.textContent` is the text of a node with its markup taken out. A template has none, and so has
nothing inside one.
-/

namespace PageAudit

/-- An element, with what is around it and what is in it. -/
structure Element where
  number : Nat
  ancestors : List String
  name : String
  attributes : List Attribute
  children : List Node
  deriving Repr, Inhabited

namespace Node

mutual

/-- The elements of a node in document order, the first numbered `n`. -/
def elements (ancestors : List String) (n : Nat) : Node → List Element
  | text _ _ => []
  | remark _ _ => []
  | element name attributes children =>
    ⟨n, ancestors, name, attributes, children⟩ :: elementsOf (name :: ancestors) (n + 1) children

/-- The elements of nodes in a row, numbered on. -/
def elementsOf (ancestors : List String) (n : Nat) : List Node → List Element
  | [] => []
  | node :: nodes =>
    let first := elements ancestors n node
    first ++ elementsOf ancestors (n + first.length) nodes

end

mutual

/-- The text of a node. -/
def textContent : Node → String
  | text _ s => s
  | remark _ _ => ""
  | element name _ children => if name = templateName then "" else textOf children

/-- The text of nodes in a row. -/
def textOf : List Node → String
  | [] => ""
  | node :: nodes => textContent node ++ textOf nodes

end

end Node

namespace Element

/-- The elements below an element, itself left out. -/
def descendants (e : Element) : List Element :=
  Node.elementsOf (e.name :: e.ancestors) (e.number + 1) e.children

/-- No template encloses the element. It may itself be one. -/
def isLive (e : Element) : Bool :=
  !e.ancestors.contains templateName

/-- The text in an element. -/
def text (e : Element) : String :=
  (Node.element e.name e.attributes e.children).textContent

/-- The first attribute of a name. -/
def attribute? (e : Element) (name : String) : Option Attribute :=
  e.attributes.find? (·.name = name)

/-- The attribute is there, whether it has a value or not. -/
def hasAttribute (e : Element) (name : String) : Bool :=
  (e.attribute? name).isSome

/-- The value of an attribute as one text, if the attribute is there and has a value. -/
def attributeText? (e : Element) (name : String) : Option String :=
  (e.attribute? name).bind (·.value.text?)

end Element

end PageAudit
