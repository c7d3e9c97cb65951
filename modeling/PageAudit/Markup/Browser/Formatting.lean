import PageAudit.Markup.Browser.Construction

/-!
# Formatting elements

A formatting element that is cut off by the end of a block is opened anew behind it
(`reconstruct`). When the end tag of a formatting element turns up inside a block that the element
does not enclose properly, the block is taken out of the element and gets a copy of its own
(`adopt`).
-/

namespace PageAudit.Markup.Browser.Build

/-- The last formatting element of a name since the last marker. -/
def lastFormatting? (name : String) : Build (Option Nat) := do
  let s ← get
  let recent := (s.formatting.reverse.takeWhile Option.isSome).filterMap id
  return recent.find? (hasName [name] s.draft)

/-- Puts a marker at the end of the list. -/
def markFormatting : Build Unit :=
  modify fun s => { s with formatting := s.formatting ++ [none] }

/-- Forgets the formatting elements back to the last marker, and the marker. -/
def clearFormatting : Build Unit :=
  modify fun s =>
    { s with formatting := ((s.formatting.reverse.dropWhile Option.isSome).drop 1).reverse }

/-- Takes an element off the list. -/
def forgetFormatting (i : Nat) : Build Unit :=
  modify fun s => { s with formatting := s.formatting.erase (some i) }

/-- A new element with the name and the attributes of another. -/
def copy (i : Nat) : Build Nat := do
  create (← kindOf i) ((← get).draft.attributes i)

/-- Opens copies of formatting elements and puts them in their place on the list. -/
def reopen : List Nat → Build Unit
  | [] => pure ()
  | i :: is => do
    let j ← copy i
    insertNew j
    modify fun s =>
      { s with formatting := s.formatting.map fun e => if e == some i then some j else e }
    reopen is

/-- Opens anew the formatting elements at the end of the list that are no longer open. -/
def reconstruct : Build Unit := do
  let s ← get
  let closed := s.formatting.reverse.takeWhile fun
    | some i => !s.stack.contains i
    | none => false
  reopen (closed.filterMap id).reverse

/-- Inserts an element for a tag and puts it on the list. -/
def insertFormatting (tag : Tag) : Build Unit := do
  insert tag
  let i ← current
  modify fun s => { s with formatting := s.formatting ++ [some i] }

/-- An end tag of which nothing special is known closes the nearest open element of its name,
unless a special element is nearer. -/
def closestOpen (d : Draft) (name : String) : List Nat → Option Nat
  | [] => none
  | i :: stack =>
    let k := (d.kind? i).getD (.html "")
    if k.name = name then some i
    else if k.isSpecial then none
    else closestOpen d name stack

/-- What an end tag does of which nothing special is known. -/
def endOther (name : String) : Build Unit := do
  let s ← get
  match closestOpen s.draft name s.stack with
  | none => pure ()
  | some i => do
    endImplied (some name)
    popPast fun _ j => j == i

/-- What the adoption works on: the formatting element, the block to be taken out of it, the node
last moved, and the place on the list of formatting elements for the copy. -/
structure Adoption where
  element : Nat
  block : Nat
  moved : Nat
  bookmark : Nat

/-- The list with one number in the place of another. -/
def replaceIn (xs : List Nat) (old new : Nat) : List Nat :=
  xs.map fun x => if x == old then new else x

/-- Takes the open elements between the block and the formatting element one by one, at most
`fuel` of them: those that are no formatting elements are closed, the others copied around what was
moved last. `above` holds the elements still to be looked at, nearest first. -/
def adoptBetween (a : Adoption) : Nat → List Nat → Build Adoption
  | 0, _ => return a
  | _, [] => return a
  | fuel + 1, node :: above => do
    let s ← get
    if !s.formatting.contains (some node) then
      removeOpen node
      adoptBetween a fuel above
    else if node == a.element then return a
    else do
      let bookmark :=
        if a.moved == a.block then (s.formatting.idxOf (some node)) + 1 else a.bookmark
      let j ← copy node
      modify fun s => { s with
        formatting := s.formatting.map fun e => if e == some node then some j else e
        stack := replaceIn s.stack node j
        draft := s.draft.append j a.moved }
      adoptBetween { a with moved := j, bookmark } fuel above

/-- Puts an element below another one on the stack. -/
def openInside (outer i : Nat) : List Nat → List Nat
  | [] => [i]
  | x :: xs => if x == outer then i :: x :: xs else x :: openInside outer i xs

/-- Takes a block out of a formatting element and puts it into an ancestor of that. What was in the
block goes into a copy of the formatting element, and the copy into the block. -/
def adoptBlock (element block ancestor : Nat) : Build Unit := do
  let s ← get
  let above := (s.stack.dropWhile (· != block)).drop 1
  let a ← adoptBetween ⟨element, block, block, s.formatting.idxOf (some element)⟩ 3 above
  modifyDraft (·.detach a.moved)
  if tableStructure.contains (← nameOf ancestor) then fosterEntry a.moved
  else modifyDraft (·.append ancestor a.moved)
  let j ← copy element
  modify fun s =>
    let kept := s.formatting.erase (some element)
    { s with
      draft := (s.draft.moveChildren block j).append block j
      formatting := kept.take a.bookmark ++ some j :: kept.drop a.bookmark
      stack := openInside block j (s.stack.erase element) }

/-- One round of the adoption; true if there is to be another. -/
def adoptOnce (name : String) : Build Bool := do
  match ← lastFormatting? name with
  | none => do
    endOther name
    return false
  | some element => do
    let s ← get
    if !s.stack.contains element then
      forgetFormatting element
      return false
    else if !(← inScope name) then
      endOther name
      return false
    else do
      let inside := s.stack.takeWhile (· != element)
      let special (i : Nat) : Bool := ((s.draft.kind? i).map Kind.isSpecial).getD false
      match inside.reverse.find? special with
      | none => do
        popPast fun _ j => j == element
        forgetFormatting element
        return false
      | some block => do
        adoptBlock element block ((s.stack.dropWhile (· != element)).getD 1 0)
        return true

/-- So many rounds of the adoption at most. -/
def adoptRounds (name : String) : Nat → Build Unit
  | 0 => pure ()
  | rounds + 1 => do
    if ← adoptOnce name then adoptRounds name rounds

/-- The end tag of a formatting element. -/
def adopt (name : String) : Build Unit :=
  adoptRounds name 8

end PageAudit.Markup.Browser.Build
