import PageAudit.Dom.Query

/-!
# Pages

A page is the list of its top-level nodes. Its queries range over all its elements, or over those
below one of them.
-/

namespace PageAudit

/-- A page by its top-level nodes. -/
structure Page where
  nodes : List Node
  deriving Repr, Inhabited

namespace Page

/-- Every element of the page in document order, also those inside templates. -/
def elements (p : Page) : List Element :=
  Node.elementsOf [] 0 p.nodes

/-- The elements that a scope holds: all of the page, or what is below one element. -/
def scope (p : Page) : Option Element → List Element
  | none => p.elements
  | some e => e.descendants

/-- All elements of a scope that a query selects, in document order. -/
def queryAll (p : Page) (q : Query) (within : Option Element := none) : List Element :=
  q.select (p.scope within)

/-- The first element of a scope that a query selects. -/
def first? (p : Page) (q : Query) (within : Option Element := none) : Option Element :=
  q.first? (p.scope within)

/-- A query selects something in a scope. -/
def exists? (p : Page) (q : Query) (within : Option Element := none) : Bool :=
  (p.first? q within).isSome

/-- The first head section, which may lie inside a template. -/
def head? (p : Page) : Option Element :=
  p.elements.find? (·.name = "head")

/-- The text of the whole page. -/
def textContent (p : Page) : String :=
  Node.textOf p.nodes

end Page

end PageAudit
