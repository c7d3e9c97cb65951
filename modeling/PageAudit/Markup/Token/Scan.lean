import PageAudit.Markup.Token.Basic
import PageAudit.Markup.Reference

/-!
# Scanning tags, comments and document types

Each scanner is a small machine that takes one character at a time and returns what it has read
together with the rest of the text. A tag that the text breaks off is lost, whereas a comment or a
document type that is broken off counts as far as it goes.
-/

namespace PageAudit.Markup

/-- Inside a tag, after its name. Names and values are kept last character first. -/
inductive TagState where
  | beforeName
  | name (name : List Char)
  | afterName
  | beforeValue
  | quoted (quote : Char) (value : List Char)
  | bare (value : List Char)
  | slash

/-- The attributes of a tag as far as they are read, the last one first. -/
abbrev Attributes := List (String × String)

/-- Adds an attribute without a value. -/
def Attributes.open (attributes : Attributes) (name : List Char) : Attributes :=
  (lowerName name.reverse, "") :: attributes

/-- A value that has been read, with its references replaced. -/
def attributeValue (value : List Char) : String :=
  .ofList (Reference.replaceAll (Reference.browser true) value.reverse)

/-- Sets the value of the attribute read last. -/
def Attributes.setLast (value : List Char) : Attributes → Attributes
  | (name, _) :: rest => (name, attributeValue value) :: rest
  | [] => []

/-- The attributes in the order of the text, without those whose name has occurred before. -/
def Attributes.finish (attributes : Attributes) : Attributes :=
  attributes.foldr (fun a kept => if kept.any (·.1 == a.1) then kept else kept ++ [a]) []

/-- Reads to the end of a tag: its attributes, whether it closes itself, and what follows it. -/
def scanTag (state : TagState) (attributes : Attributes) :
    List Char → Option (Attributes × Bool × List Char)
  | [] => none
  | c :: s =>
    match state with
    | .beforeName =>
      if isSpace c then scanTag .beforeName attributes s
      else if c == '>' then some (attributes.finish, false, s)
      else if c == '/' then scanTag .slash attributes s
      else scanTag (.name [shown c]) attributes s
    | .name name =>
      if c == '=' then scanTag .beforeValue (attributes.open name) s
      else if c == '>' then some ((attributes.open name).finish, false, s)
      else if isSpace c then scanTag .afterName (attributes.open name) s
      else if c == '/' then scanTag .slash (attributes.open name) s
      else scanTag (.name (shown c :: name)) attributes s
    | .afterName =>
      if isSpace c then scanTag .afterName attributes s
      else if c == '=' then scanTag .beforeValue attributes s
      else if c == '>' then some (attributes.finish, false, s)
      else if c == '/' then scanTag .slash attributes s
      else scanTag (.name [shown c]) attributes s
    | .beforeValue =>
      if isSpace c then scanTag .beforeValue attributes s
      else if c == '"' || c == '\'' then scanTag (.quoted c []) attributes s
      else if c == '>' then some (attributes.finish, false, s)
      else scanTag (.bare [shown c]) attributes s
    | .quoted quote value =>
      if c == quote then scanTag .beforeName (attributes.setLast value) s
      else scanTag (.quoted quote (shown c :: value)) attributes s
    | .bare value =>
      if isSpace c then scanTag .beforeName (attributes.setLast value) s
      else if c == '>' then some ((attributes.setLast value).finish, false, s)
      else scanTag (.bare (shown c :: value)) attributes s
    | .slash =>
      if c == '>' then some (attributes.finish, true, s)
      else if isSpace c then scanTag .beforeName attributes s
      else if c == '/' then scanTag .slash attributes s
      else scanTag (.name [shown c]) attributes s

/-- The character ends the name of a tag. -/
def endsTagName (c : Char) : Bool :=
  isSpace c || c == '>' || c == '/'

/-- A tag from its name on. -/
def scanNamedTag (s : List Char) : Option (Tag × List Char) :=
  let (name, rest) := s.span (!endsTagName ·)
  (scanTag .beforeName [] rest).map fun (attributes, selfClosing, rest) =>
    (⟨lowerName (name.map shown), attributes, selfClosing⟩, rest)

/-- Inside a comment. The dashes that may belong to its end are not yet part of the text. -/
inductive CommentState where
  | start
  | startDash
  | inside
  | dash
  | dashDash
  | bang

/-- Reads to the end of a comment. The text read is kept last character first. -/
def scanComment (state : CommentState) (text : List Char) : List Char → List Char × List Char
  | [] => (text.reverse, [])
  | c :: s =>
    match state with
    | .start =>
      if c == '-' then scanComment .startDash text s
      else if c == '\x00' then scanComment .start ('\ufffd' :: text) s
      else if c == '>' then (text.reverse, s)
      else scanComment .inside (c :: text) s
    | .startDash =>
      if c == '-' then scanComment .dashDash text s
      else if c == '\x00' then scanComment .startDash ('\ufffd' :: '-' :: text) s
      else if c == '>' then (text.reverse, s)
      else scanComment .inside (c :: '-' :: text) s
    | .inside =>
      if c == '-' then scanComment .dash text s
      else scanComment .inside (shown c :: text) s
    | .dash =>
      if c == '-' then scanComment .dashDash text s
      else scanComment .inside (shown c :: '-' :: text) s
    | .dashDash =>
      if c == '>' then (text.reverse, s)
      else if c == '!' then scanComment .bang text s
      else if c == '-' then scanComment .dashDash ('-' :: text) s
      else scanComment .inside (shown c :: '-' :: '-' :: text) s
    | .bang =>
      if c == '>' then (text.reverse, s)
      else if c == '-' then scanComment .dash ('!' :: '-' :: '-' :: text) s
      else scanComment .inside (shown c :: '!' :: '-' :: '-' :: text) s

/-- What cannot be read otherwise is a comment up to the next `>`. -/
def scanBogusComment (s : List Char) : List Char × List Char :=
  let (text, rest) := s.span (· != '>')
  (text.map shown, rest.drop 1)

/-- A marked section up to its closing brackets. -/
def scanMarkedSection (text : List Char) : List Char → List Char × List Char
  | [] => (text.reverse, [])
  | ']' :: ']' :: '>' :: s => (text.reverse, s)
  | c :: s => scanMarkedSection (shown c :: text) s

/-- The text after a word, letter case aside, if it starts with the word. -/
def afterWord? (word : String) (s : List Char) : Option (List Char) :=
  if (s.take word.length).map Char.toLower == word.toList then some (s.drop word.length) else none

/-- Inside a document type, after the word that introduces its identifiers. -/
inductive DoctypeState where
  | beforePublic
  | publicId (quote : Char) (id : List Char)
  | afterPublic
  | beforeSystem
  | systemId (quote : Char) (id : List Char)
  | afterSystem
  | bogus

/-- The document type is not as it should be. -/
def Doctype.broken (d : Doctype) : Doctype :=
  { d with correct := false }

/-- Either of the marks that may stand around a value. -/
def isQuote (c : Char) : Bool :=
  c == '"' || c == '\''

/-- What a document type is worth if the text ends in the middle of it. -/
def DoctypeState.atEnd (d : Doctype) : DoctypeState → Doctype
  | publicId _ id => { d with publicId := some (.ofList id.reverse), correct := false }
  | systemId _ id => { d with systemId := some (.ofList id.reverse), correct := false }
  | bogus => d
  | _ => d.broken

/-- Reads the identifiers of a document type and whatever else comes before its end. -/
def scanIds (state : DoctypeState) (d : Doctype) : List Char → Doctype × List Char
  | [] => (state.atEnd d, [])
  | c :: s =>
    match state with
    | .beforePublic =>
      if isSpace c then scanIds .beforePublic d s
      else if isQuote c then scanIds (.publicId c []) d s
      else if c == '>' then (d.broken, s)
      else scanIds .bogus d.broken s
    | .publicId quote id =>
      if c == quote then scanIds .afterPublic { d with publicId := some (.ofList id.reverse) } s
      else if c == '>' then ({ d with publicId := some (.ofList id.reverse), correct := false }, s)
      else scanIds (.publicId quote (shown c :: id)) d s
    | .afterPublic =>
      if isSpace c then scanIds .afterPublic d s
      else if c == '>' then (d, s)
      else if isQuote c then scanIds (.systemId c []) d s
      else scanIds .bogus d.broken s
    | .beforeSystem =>
      if isSpace c then scanIds .beforeSystem d s
      else if isQuote c then scanIds (.systemId c []) d s
      else if c == '>' then (d.broken, s)
      else scanIds .bogus d.broken s
    | .systemId quote id =>
      if c == quote then scanIds .afterSystem { d with systemId := some (.ofList id.reverse) } s
      else if c == '>' then ({ d with systemId := some (.ofList id.reverse), correct := false }, s)
      else scanIds (.systemId quote (shown c :: id)) d s
    | .afterSystem =>
      if isSpace c then scanIds .afterSystem d s
      else if c == '>' then (d, s)
      else scanIds .bogus d s
    | .bogus => if c == '>' then (d, s) else scanIds .bogus d s

/-- Reads a document type from after the word that opens it. -/
def scanDoctype (s : List Char) : Doctype × List Char :=
  let (name, rest) := (s.dropWhile isSpace).span fun c => !isSpace c && c != '>'
  let d : Doctype := { name := lowerName (name.map shown) }
  match rest.dropWhile isSpace with
  | [] => (d.broken, [])
  | '>' :: rest => (if name.isEmpty then d.broken else d, rest)
  | rest =>
    match afterWord? "public" rest with
    | some rest => scanIds .beforePublic d rest
    | none =>
      match afterWord? "system" rest with
      | some rest => scanIds .beforeSystem d rest
      | none => scanIds .bogus d.broken rest

end PageAudit.Markup
