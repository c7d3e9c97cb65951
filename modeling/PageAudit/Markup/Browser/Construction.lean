import PageAudit.Markup.Token.Lexer
import PageAudit.Markup.Browser.Vocabulary

/-!
# The state of construction

Construction goes through phases, which decide what a token does. It keeps a stack of the elements
that are open, innermost first, and a list of the formatting elements that are to be opened anew
wherever they have been cut off, oldest first and parted by markers. Text and elements that turn up
in a table where none may be are put in front of that table instead: they are fostered.
-/

namespace PageAudit.Markup.Browser

/-- The phases of construction. -/
inductive Phase where
  | initial
  | beforeHtml
  | beforeHead
  | inHead
  | inHeadNoscript
  | afterHead
  | inBody
  | text
  | inTable
  | inTableText
  | inCaption
  | inColumnGroup
  | inTableBody
  | inRow
  | inCell
  | inSelect
  | inSelectInTable
  | afterBody
  | inFrameset
  | afterFrameset
  | afterAfterBody
  | afterAfterFrameset
  deriving DecidableEq, Repr

/-- How far construction has got. Elements are known by their numbers in the draft. -/
structure State where
  draft : Draft := {}
  stack : List Nat := []
  formatting : List (Option Nat) := []
  head : Option Nat := none
  form : Option Nat := none
  phase : Phase := .initial
  /-- The phase to go back to after raw text. -/
  afterText : Phase := .initial
  /-- The phase to go back to after text in a table. -/
  afterTableText : Phase := .initial
  /-- Text in a table, the last piece first. -/
  tableText : List (List Char) := []
  /-- A set of frames may still take the place of the body. -/
  framesAllowed : Bool := true
  /-- The page is laid out as old pages were: a table may stand in a paragraph. -/
  oldLayout : Bool := false
  fostering : Bool := false
  /-- The next white space loses a line feed at the start of its element. -/
  dropsLineFeed : Bool := false
  mode : Mode := .data

/-- A step of construction. It may break off for a reason. -/
abbrev Build := StateT State (Except String)

/-- Whether a token has been dealt with or is to be looked at again in the phase now reached. -/
inductive Verdict where
  | done
  | again
  deriving DecidableEq, Repr

namespace Build

/-- The full name of an entry, which is empty if it is no element. -/
def kindOf (i : Nat) : Build Kind :=
  return ((← get).draft.kind? i).getD (.html "")

/-- The name of an entry. -/
def nameOf (i : Nat) : Build String :=
  return (← kindOf i).name

/-- Changes the draft and nothing else. -/
def modifyDraft (f : Draft → Draft) : Build Unit :=
  modify fun s => { s with draft := f s.draft }

/-- Reaches a phase. -/
def setPhase (p : Phase) : Build Unit :=
  modify fun s => { s with phase := p }

/-- From now on no set of frames may take the place of the body. -/
def forbidFrames : Build Unit :=
  modify fun s => { s with framesAllowed := false }

/-- The current element, which is the innermost open one. -/
def current : Build Nat :=
  return (← get).stack.headD 0

/-- The full name of the current element. -/
def currentKind : Build Kind := do
  kindOf (← current)

/-- The name of the current element. -/
def currentName : Build String := do
  nameOf (← current)

/-- The html element, which stays at the bottom of the stack. -/
def root : Build Nat :=
  return (← get).stack.getLastD 0

/-- The element above the html element on the stack. -/
def second? : Build (Option Nat) :=
  return (← get).stack.reverse[1]?

/-- The reason for breaking off where there is nothing more to close. -/
def emptyStack : String := "pop from empty list"

/-- Closes the current element. -/
def pop : Build Nat := do
  match (← get).stack with
  | [] => throw emptyStack
  | i :: stack => do
    modify fun s => { s with stack }
    return i

/-- Pops elements until one has been popped that passes the test. -/
def popPast (p : Draft → Nat → Bool) : Build Unit := do
  let s ← get
  match s.stack.dropWhile (!p s.draft ·) with
  | [] => throw emptyStack
  | _ :: stack => modify fun s => { s with stack }

/-- Pops elements until the current one passes the test. -/
def popTo (p : Draft → Nat → Bool) : Build Unit := do
  let s ← get
  match s.stack.dropWhile (!p s.draft ·) with
  | [] => throw emptyStack
  | stack => modify fun s => { s with stack }

/-- The entry is an element with one of these names. -/
def hasName (names : List String) (d : Draft) (i : Nat) : Bool :=
  match d.kind? i with
  | some k => names.contains k.name
  | none => false

/-- Closes elements until one of this name has been closed. -/
def popPastName (name : String) : Build Unit :=
  popPast (hasName [name])

/-- Opens an element that stands in the draft. -/
def push (i : Nat) : Build Unit :=
  modify fun s => { s with stack := i :: s.stack }

/-- Takes an element off the stack, wherever it is. -/
def removeOpen (i : Nat) : Build Unit :=
  modify fun s => { s with stack := s.stack.erase i }

/-- Looks for an open element that passes the test, as far as a scope reaches. -/
def searchScope (d : Draft) (scope : Scope) (p : Nat → Bool) : List Nat → Bool
  | [] => false
  | i :: stack =>
    if p i then true
    else if scope.stopsAt ((d.kind? i).getD (.html "")) then false
    else searchScope d scope p stack

/-- An element of a name is open, as far as a scope reaches. -/
def inScope (name : String) (scope : Scope := .default) : Build Bool := do
  let s ← get
  return searchScope s.draft scope (s.draft.kind? · == some (.html name)) s.stack

/-- This very element is open, as far as the usual scope reaches. -/
def entryInScope (i : Nat) : Build Bool := do
  let s ← get
  return searchScope s.draft .default (· == i) s.stack

/-- An element of one of these names is open, as far as a scope reaches. -/
def anyInScope (names : List String) (scope : Scope := .default) : Build Bool :=
  names.anyM (inScope · scope)

/-- Ends the elements whose end tags go without saying, from the current one up. -/
def impliedStack (d : Draft) (except : Option String) : List Nat → List Nat
  | [] => []
  | i :: stack =>
    match d.kind? i with
    | some k =>
      if impliedEnds.contains k.name && except != some k.name then impliedStack d except stack
      else i :: stack
    | none => i :: stack

/-- Ends the elements whose end tags go without saying, but for those of one name. -/
def endImplied (except : Option String := none) : Build Unit :=
  modify fun s => { s with stack := impliedStack s.draft except s.stack }

/-- A new element without a place. -/
def create (kind : Kind) (attributes : List Attribute) : Build Nat := do
  let (draft, i) := (← get).draft.add (.element kind attributes)
  modify fun s => { s with draft }
  return i

/-- A new element for a tag. -/
def createTag (space : Namespace) (tag : Tag) : Build Nat :=
  create ⟨space, tag.name⟩ (tag.attributes.map fun (n, v) => attributeOf tag.name n v)

/-- Where fostered content goes: a parent, and the table before which to put it. -/
def fosterPlace : Build (Nat × Option Nat) := do
  let s ← get
  match s.stack.find? (hasName ["table"] s.draft) with
  | none => return (← root, none)
  | some table =>
    match (s.draft.entry table).parent with
    | some parent => return (parent, some table)
    | none => return ((s.stack.dropWhile (· != table)).getD 1 table, none)

/-- The reason for breaking off where a table is not among the children of its parent. -/
def misplaced : String := "Tag.index: element not in tag"

/-- Puts an entry where fostered content goes. -/
def fosterEntry (i : Nat) : Build Unit := do
  match ← fosterPlace with
  | (parent, none) => modifyDraft (·.append parent i)
  | (parent, some table) =>
    match (← get).draft.insertBefore parent table i with
    | some draft => modify fun s => { s with draft }
    | none => throw misplaced

/-- The current element is part of the structure of a table and content is being fostered. -/
def fosters : Build Bool :=
  return (← get).fostering && tableStructure.contains (← currentName)

/-- Puts a new element in its place and opens it. -/
def insertNew (i : Nat) : Build Unit := do
  if ← fosters then fosterEntry i
  else modifyDraft (·.append (← current) i)
  push i

/-- Inserts an element with a name from one of the vocabularies. -/
def insertIn (space : Namespace) (tag : Tag) : Build Unit := do
  insertNew (← createTag space tag)

/-- Inserts an element for a tag, and opens it. -/
def insert (tag : Tag) : Build Unit :=
  insertIn .html tag

/-- Inserts an element without attributes. -/
def insertNamed (name : String) : Build Unit :=
  insert { name }

/-- Inserts an element that cannot have content. -/
def insertVoid (tag : Tag) : Build Unit := do
  insert tag
  discard pop

/-- Inserts text, which joins the text in front of it. -/
def insertText (text : List Char) : Build Unit := do
  if ← fosters then
    match ← fosterPlace with
    | (parent, none) => modifyDraft (·.appendText parent text)
    | (parent, some table) =>
      match (← get).draft.insertTextBefore parent table text with
      | some draft => modify fun s => { s with draft }
      | none => throw misplaced
  else modifyDraft (·.appendText (← current) text)

/-- Puts a remark at the end of an entry's children. It is never fostered. -/
def insertRemark (parent : Nat) (content : Content) : Build Unit := do
  let (draft, i) := (← get).draft.add content
  modify fun s => { s with draft := draft.append parent i }

/-- Puts a comment at the end of an entry's children. -/
def insertComment (parent : Nat) (text : List Char) : Build Unit :=
  insertRemark parent (.comment (.ofList text))

/-- Adds the attributes that an element does not have yet. -/
def addAttributes (i : Nat) (tag : Tag) : Build Unit := do
  let name ← nameOf i
  modifyDraft fun d =>
    d.setAttributes i <| tag.attributes.foldl (fun kept (n, v) =>
      if kept.any (·.name == n) then kept else kept ++ [attributeOf name n v]) (d.attributes i)

/-- A second html tag adds to the attributes of the first. -/
def mergeHtml (tag : Tag) : Build Verdict := do
  addAttributes (← root) tag
  return .done

/-- Opens an element whose content is raw text and remembers the phase. -/
def insertWithMode (tag : Tag) (mode : Mode) : Build Unit := do
  insert tag
  modify fun s => { s with mode, afterText := s.phase, phase := .text }

/-- Opens an element in which there is nothing but text up to its end tag. -/
def insertRaw (tag : Tag) : Build Unit :=
  insertWithMode tag (.raw tag.name.toList)

end Build

end PageAudit.Markup.Browser
