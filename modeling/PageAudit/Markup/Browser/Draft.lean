import PageAudit.Markup.Attribute

/-!
# Drafts of pages

While a page is under construction its nodes move about, so it is kept as a table of numbered
entries, each with its parent and its children. Entry zero is the page itself. `Draft.nodes` gives
the finished tree.
-/

namespace PageAudit.Markup.Browser

/-- The vocabularies from which the names of elements come. -/
inductive Namespace where
  | html
  | svg
  | math
  deriving DecidableEq, Repr

/-- The full name of an element. -/
structure Kind where
  space : Namespace
  name : String
  deriving DecidableEq, Repr

/-- What an entry is. Its text is kept in pieces, the last one first. -/
inductive Content where
  | page
  | element (kind : Kind) (attributes : List Attribute)
  | text (text : List (List Char))
  | comment (text : String)
  | doctype (text : String)

/-- A node in the making, with its place among the others. -/
structure Entry where
  content : Content
  parent : Option Nat := none
  children : Array Nat := #[]

instance : Inhabited Entry := ⟨{ content := .page }⟩

/-- A page in the making. -/
structure Draft where
  entries : Array Entry := #[{ content := .page }]

namespace Draft

/-- The entry of a number; an empty one if there is none. -/
def entry (d : Draft) (i : Nat) : Entry :=
  d.entries.getD i default

/-- The full name of an entry, if it is an element. -/
def kind? (d : Draft) (i : Nat) : Option Kind :=
  match (d.entry i).content with
  | .element kind _ => some kind
  | _ => none

/-- The attributes of an entry; none if it is no element. -/
def attributes (d : Draft) (i : Nat) : List Attribute :=
  match (d.entry i).content with
  | .element _ attributes => attributes
  | _ => []

/-- The entry is text. -/
def isText (d : Draft) (i : Nat) : Bool :=
  match (d.entry i).content with
  | .text _ => true
  | _ => false

/-- Changes one entry. -/
def update (d : Draft) (i : Nat) (f : Entry → Entry) : Draft :=
  { d with entries := d.entries.modify i f }

/-- Adds an entry that has no place yet, and returns its number. -/
def add (d : Draft) (content : Content) : Draft × Nat :=
  ({ d with entries := d.entries.push { content } }, d.entries.size)

/-- Takes an entry out of its place, with all that is below it. -/
def detach (d : Draft) (i : Nat) : Draft :=
  match (d.entry i).parent with
  | none => d
  | some p =>
    (d.update p fun e => { e with children := e.children.filter (· != i) }).update i
      fun e => { e with parent := none }

/-- Moves an entry to the end of a parent's children. -/
def append (d : Draft) (parent i : Nat) : Draft :=
  ((d.detach i).update parent fun e => { e with children := e.children.push i }).update i
    fun e => { e with parent := some parent }

/-- Moves an entry to a place among a parent's children. -/
def insertAt (d : Draft) (parent place i : Nat) : Draft :=
  ((d.detach i).update parent fun e =>
    { e with children := e.children.extract 0 place ++ #[i] ++ e.children.extract place }).update i
    fun e => { e with parent := some parent }

/-- Adds text to an entry that is text. -/
def extend (d : Draft) (i : Nat) (text : List Char) : Draft :=
  d.update i fun e => match e.content with
    | .text parts => { e with content := .text (text :: parts) }
    | _ => e

/-- Puts text at the end of an entry's children. It joins text that stands there already. -/
def appendText (d : Draft) (parent : Nat) (text : List Char) : Draft :=
  match (d.entry parent).children.back? with
  | some last =>
    if d.isText last then d.extend last text
    else
      let (d, i) := d.add (.text [text])
      d.append parent i
  | none =>
    let (d, i) := d.add (.text [text])
    d.append parent i

/-- Puts text before a child. It joins the text in front of that child; in front of the first
child, the text at the very end. -/
def insertTextBefore (d : Draft) (parent child : Nat) (text : List Char) : Option Draft := do
  let children := (d.entry parent).children
  let place ← children.idxOf? child
  let neighbour ← if place = 0 then children.back? else children[place - 1]?
  if d.isText neighbour then return d.extend neighbour text
  else
    let (d, i) := d.add (.text [text])
    return d.insertAt parent place i

/-- Moves an entry before a child of a parent, if that is one. -/
def insertBefore (d : Draft) (parent child i : Nat) : Option Draft := do
  let d := d.detach i
  let place ← (d.entry parent).children.idxOf? child
  return d.insertAt parent place i

/-- Moves all children of one entry to the end of another's. -/
def moveChildren (d : Draft) (source target : Nat) : Draft :=
  (d.entry source).children.foldl (fun d i => d.append target i) d

/-- Gives an element other attributes. -/
def setAttributes (d : Draft) (i : Nat) (attributes : List Attribute) : Draft :=
  d.update i fun e => match e.content with
    | .element kind _ => { e with content := .element kind attributes }
    | _ => e

/-- The tree below an entry. No tree is deeper than there are entries, which is the fuel. -/
def node (d : Draft) : Nat → Nat → Node
  | 0, _ => .text .prose ""
  | fuel + 1, i =>
    let e := d.entry i
    match e.content with
    | .page => .text .prose ""
    | .element kind attributes =>
      .element kind.name attributes (e.children.toList.map (d.node fuel))
    | .text parts => .text .prose (.ofList parts.reverse.flatten)
    | .comment text => .remark .comment text
    | .doctype text => .remark .doctype text

/-- The finished page. -/
def nodes (d : Draft) : List Node :=
  (d.entry 0).children.toList.map (d.node d.entries.size)

end Draft

end PageAudit.Markup.Browser
