import PageAudit.Markup.Attribute

/-!
# Trees from events

Two of the readers report what they find as a sequence of events and leave the nesting to
`nodesOf`: an end closes everything up to the nearest open element of its name, and does nothing if
there is none; whatever is open at the end of the sequence ends there. A run of text that is all
white space shrinks to a single character unless an element around it keeps white space.
-/

namespace PageAudit.Markup

/-- Something that a reader comes upon. -/
inductive Event where
  | start (name : String) (attributes : List Attribute)
  | stop (name : String)
  | text (text : List Char)
  | remark (kind : RemarkKind) (content : String)
  deriving Repr

/-- An open element with the nodes that it has so far, the last one first. -/
structure Frame where
  name : String
  attributes : List Attribute
  children : List Node := []

/-- The open elements, innermost first, the nodes outside all of them, and the text of the run that
is being read, the last piece first. -/
structure Nesting where
  frames : List Frame := []
  roots : List Node := []
  run : List (List Char) := []

/-- White space that may shrink. -/
def shrinks (c : Char) : Bool :=
  c == ' ' || c == '\n' || c == '\t' || c == '\x0c' || c == '\r'

/-- The text, or one character for it if it is all white space: a line feed if there is one in
it. -/
def shrink (text : List Char) : List Char :=
  if text.all shrinks then if text.contains '\n' then ['\n'] else [' '] else text

/-- White space in an element of this name stays as it is. -/
def keepsSpace (name : String) : Bool :=
  name == "pre" || name == "textarea"

namespace Nesting

/-- Adds a node to the innermost open element, or outside all of them if none is open. -/
def add (n : Nesting) (node : Node) : Nesting :=
  match n.frames with
  | [] => { n with roots := node :: n.roots }
  | f :: fs => { n with frames := { f with children := node :: f.children } :: fs }

/-- What the text of the innermost script or style sheet is. -/
def textKind (n : Nesting) : TextKind :=
  match n.frames.find? fun f => f.name == "script" || f.name == "style" with
  | some f => if f.name == "script" then .script else .stylesheet
  | none => .prose

/-- Ends the run of text that is being read. -/
def flush (n : Nesting) : Nesting :=
  if n.run.isEmpty then n
  else
    let text := n.run.reverse.flatten
    let kept := if n.frames.any (keepsSpace ·.name) then text else shrink text
    { n with run := [] }.add (.text n.textKind (.ofList kept))

/-- Closes the innermost element. -/
def close (n : Nesting) : Nesting :=
  match n.frames with
  | [] => n
  | f :: fs => { n with frames := fs }.add (.element f.name f.attributes f.children.reverse)

/-- Closes so many elements. -/
def closeMany : Nat → Nesting → Nesting
  | 0, n => n
  | k + 1, n => closeMany k n.close

/-- Takes an event. All but text ends the run of text before it. -/
def take (n : Nesting) : Event → Nesting
  | .text text => { n with run := text :: n.run }
  | .remark kind content => n.flush.add (.remark kind content)
  | .start name attributes =>
    let n := n.flush
    { n with frames := ⟨name, attributes, []⟩ :: n.frames }
  | .stop name =>
    let n := n.flush
    match n.frames.findIdx? (·.name == name) with
    | some i => closeMany (i + 1) n
    | none => n

/-- The nodes when there are no more events. -/
def finish (n : Nesting) : List Node :=
  let n := n.flush
  (closeMany n.frames.length n).roots.reverse

end Nesting

/-- The nodes that a sequence of events makes up. -/
def nodesOf (events : List Event) : List Node :=
  (events.foldl Nesting.take {}).finish

end PageAudit.Markup
