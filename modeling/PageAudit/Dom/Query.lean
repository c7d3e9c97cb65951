import PageAudit.Dom.Element

/-!
# Queries

A query selects elements by name and by conditions on their attributes. Every query passes over
the elements that a template encloses; whether the template stands inside or around the scope that
is searched makes no difference.
-/

namespace PageAudit

/-- What a query may ask of an attribute. -/
inductive Condition where
  | present
  | equals (value : String)
  | never
  deriving DecidableEq, Repr

/-- What to look for: elements of some names, whose attributes meet conditions. -/
structure Query where
  /-- The names to look for; any name will do if there is no list. -/
  names : Option (List String) := none
  attributes : List (String × Condition) := []
  deriving DecidableEq, Repr

namespace Condition

/-- The condition holds of the attribute that an element has under a name. -/
def holds (c : Condition) (e : Element) (name : String) : Bool :=
  match c with
  | present => e.hasAttribute name
  | equals value => e.hasAttribute name && e.attributeText? name == some value
  | never => false

end Condition

namespace Query

/-- The query for one name. -/
def named (name : String) (attributes : List (String × Condition) := []) : Query :=
  ⟨some [name], attributes⟩

/-- The element has one of the names, meets every condition and lies in no template. -/
def accepts (q : Query) (e : Element) : Bool :=
  (match q.names with
    | none => true
    | some names => names.contains e.name)
  && q.attributes.all (fun (name, c) => c.holds e name)
  && e.isLive

/-- The elements of a list that a query selects. -/
def select (q : Query) (es : List Element) : List Element :=
  es.filter q.accepts

/-- The first element of a list that a query selects. -/
def first? (q : Query) (es : List Element) : Option Element :=
  es.find? q.accepts

end Query

end PageAudit
