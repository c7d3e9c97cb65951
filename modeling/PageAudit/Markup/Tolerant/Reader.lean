import PageAudit.Markup.Event
import PageAudit.Markup.Tolerant.Vocabulary

/-!
# Reading with what the markup implies

`read` puts an `html` element around the page, a `head` around what belongs into a head and a `body`
around the rest, where their tags are missing. A start tag may end the innermost elements, as an
item of a list ends the one before; an end tag ends all that is open inside its element, and nothing
if there is no such element or a stronger one lies in between. White space counts wherever
something has come before it.
-/

namespace PageAudit.Markup.Tolerant

/-- What has been read so far. -/
structure State where
  /-- The open elements, innermost first. -/
  opened : List String := []
  /-- Something other than comments and the document type has been read. -/
  begun : Bool := false
  headSeen : Bool := false
  bodySeen : Bool := false
  /-- The start tags without effect whose end tags shall have none either. -/
  ignored : Nat := 0
  mode : Mode := .data
  /-- The last event first. -/
  events : List Event := []

namespace State

/-- Adds an event. -/
def emit (st : State) (e : Event) : State :=
  { st with events := e :: st.events }

/-- Opens an element inside the innermost one. -/
def push (st : State) (name : String) (attributes : List Attribute := []) : State :=
  { st.emit (.start name attributes) with
    opened := name :: st.opened
    headSeen := st.headSeen || name == "head" || name == "body"
    bodySeen := st.bodySeen || name == "body" }

/-- Ends the innermost element. -/
def pop (st : State) : State :=
  match st.opened with
  | [] => st
  | name :: rest => { st.emit (.stop name) with opened := rest }

/-- Ends so many elements. -/
def popMany : Nat → State → State
  | 0, st => st
  | n + 1, st => popMany n st.pop

/-- Ends the innermost elements that a start tag ends. -/
def makeRoom (st : State) (tag : String) : State :=
  popMany (st.opened.takeWhile (ends tag)).length st

/-- Opens what a start tag implies. -/
def imply (st : State) (tag : String) : State :=
  if tag == "html" then st
  else
    let st := if st.opened.isEmpty then st.push "html" else st
    if tag == "body" || tag == "head" then st
    else if st.opened.length ≤ 1 && headNames.contains tag then
      if st.headSeen then st else st.push "head"
    else if frameNames.contains tag || st.bodySeen then st
    else if st.opened.contains "body" || st.opened.contains "head" then st
    else st.push "body"

/-- Text implies what a paragraph implies, and ends the head. -/
def prepareText (st : State) : State :=
  (if st.opened.head? == some "head" then st.pop else st).imply "p"

/-- The innermost element is none that text stands in, or there is none. -/
def outsideBody (st : State) : Bool :=
  match st.opened.head? with
  | none => true
  | some name => name == "html" || name == "head"

/-- White space in front of other text stays where it is. -/
def text (st : State) (s : List Char) : State :=
  let st := { st with begun := true }
  if st.outsideBody then
    let (space, rest) := s.span isSpace
    let st := if space.isEmpty then st else st.emit (.text space)
    if rest.isEmpty then st else st.prepareText.emit (.text rest)
  else st.emit (.text s)

/-- A start tag that may not stand where it stands. -/
def misplaced (st : State) (name : String) : Bool :=
  match name with
  | "html" => !st.opened.isEmpty
  | "head" => st.opened.length != 1
  | "body" => st.opened.contains "body"
  | _ => false

/-- The attributes of a tag, in its order. -/
def attributesOf (tag : Tag) : List Attribute :=
  tag.attributes.map fun (name, value) => attributeOf tag.name name value

/-- A tag that closes itself ends the innermost element, even if it has not opened it. -/
def startTag (st : State) (tag : Tag) : State :=
  let st := { (st.makeRoom tag.name).imply tag.name with begun := true }
  let st :=
    if st.misplaced tag.name then { st with ignored := st.ignored + 1 }
    else st.push tag.name (attributesOf tag)
  if tag.selfClosing || voidNames.contains tag.name then st.pop
  else { st with mode := contentMode tag.name }

/-- Takes an end tag, which ends all that is open inside its element unless something stronger
is. -/
def endTag (st : State) (name : String) : State :=
  let st := { st with begun := true }
  if st.ignored > 0 && (name == "html" || name == "body" || name == "head") then
    { st with ignored := st.ignored - 1 }
  else
    match st.opened.findIdx? (· == name) with
    | none => st
    | some i =>
      if (st.opened.take i).any fun e => strength name < strength e then st
      else popMany (i + 1) st

/-- Takes a token. White space in front of everything else is dropped. -/
def take (st : State) : Token → State
  | .space s => if st.begun then st.text s else st
  | .text s => st.text (s.map shown)
  | .startTag tag => st.startTag tag
  | .endTag tag => { st.endTag tag.name with mode := .data }
  | .comment s => st.emit (.remark .comment (.ofList s))
  | .doctype d => st.emit (.remark .doctype d.name)

end State

/-- Takes the tokens of a text. The fuel is more than the length of the text. -/
def takeAll : Nat → State → List Char → State
  | 0, st, _ => st
  | _, st, [] => st
  | fuel + 1, st, c :: s =>
    let step := st.mode.step false c s
    match step.token with
    | some token => takeAll fuel (st.take token) step.rest
    | none => takeAll fuel st step.rest

/-- A mark of the order of bytes at the start of a text is no part of it. -/
def withoutMark : List Char → List Char
  | '\ufeff' :: s => s
  | s => s

/-- The nodes of a text; there is none that cannot be read. -/
def read (text : String) : Except String (List Node) :=
  let chars := unifyLineBreaks (withoutMark text.toList)
  .ok (nodesOf (takeAll (chars.length + 1) {} chars).events.reverse)

end PageAudit.Markup.Tolerant
