import PageAudit.Markup.Reference
import PageAudit.Text.Case

/-!
# Tags read as they come

The name of a tag goes on to the next white space, slash or `>`. Attributes may follow without
anything between them if the one before ends in a quote. A quote that is never closed is no quote,
and a slash counts for something only right before the final `>`.
-/

namespace PageAudit.Markup.Plain

open Text (isBlank)

/-- Either of the marks that may stand around a value. -/
def isQuote (c : Char) : Bool :=
  c == '"' || c == '\''

/-- The character may stand in the name of a tag. -/
def isTagNameChar (c : Char) : Bool :=
  !(c == '\t' || c == '\n' || c == '\r' || c == '\x0c' || c == ' ' || c == '/' || c == '>'
    || c == '\x00')

/-- Drops blanks and slashes, but not a slash right before `>`. Returns the last character dropped,
or `last` if there is none. -/
def dropFiller (last : Char) : List Char → Char × List Char
  | [] => (last, [])
  | '/' :: '>' :: s => (last, '/' :: '>' :: s)
  | c :: s => if isBlank c || c == '/' then dropFiller c s else (last, c :: s)

/-- A value and what follows it, and the last character of what has been read. -/
structure ValueMatch where
  value : List Char
  last : Char
  rest : List Char

/-- A value without quotes. -/
def bareValue (s : List Char) : ValueMatch :=
  let value := s.takeWhile fun c => c != '>' && !isBlank c
  ⟨value, value.getLastD '=', s.drop value.length⟩

/-- The value of an attribute after its name, if there is one. An unclosed quote can be part of a
bare value, but not at its start. -/
def value? (s : List Char) : Option ValueMatch :=
  let s := s.dropWhile isBlank
  let signs := s.takeWhile (· == '=')
  let s := s.drop signs.length
  if signs.isEmpty then none
  else
    let blanks := s.takeWhile isBlank
    let s := s.drop blanks.length
    match s with
    | [] => some ⟨[], blanks.getLastD '=', []⟩
    | c :: t =>
      if isQuote c then
        if t.contains c then
          let value := t.takeWhile (· != c)
          some ⟨value, c, t.drop (value.length + 1)⟩
        else match blanks.getLast? with
          | some blank => some ⟨[], '=', blank :: s⟩
          | none => if signs.length < 2 then none else some (bareValue ('=' :: s))
      else some (bareValue s)

/-- The attributes of a tag in the order of the text, and what follows them. The fuel is the length
of the text. -/
def attributes : Nat → Char → List Char → List (String × String) × List Char
  | 0, _, s => ([], s)
  | fuel + 1, last, s =>
    match s with
    | [] => ([], [])
    | c :: t =>
      if (isQuote last || isBlank last || last == '/') && !(isBlank c || c == '/' || c == '>') then
        let more := t.takeWhile fun d => !(isBlank d || d == '/' || d == '=' || d == '>')
        let name := Text.lower (.ofList (c :: more))
        let rest := t.drop more.length
        let ⟨value, last, rest⟩ := (value? rest).getD ⟨[], (c :: more).getLastD c, rest⟩
        let (last, rest) := dropFiller last rest
        let (as, rest) := attributes fuel last rest
        ((name, .ofList (Reference.replaceAll Reference.lenient value)) :: as, rest)
      else ([], s)

/-- How a start tag ends. -/
inductive TagEnd where
  | normal
  | selfClosing
  /-- Something that ends the tag without being part of one: all of it is text. -/
  | broken
  | incomplete
  deriving DecidableEq, Repr

/-- How a start tag ends whose attributes have been read, and what follows. -/
def tagEnd : List Char → TagEnd × List Char
  | '>' :: s => (.normal, s)
  | '/' :: '>' :: s => (.selfClosing, s)
  | [] => (.incomplete, [])
  | c :: s => if c.isAlpha || c == '=' || c == '/' then (.incomplete, c :: s) else (.broken, c :: s)

/-- A start tag, and what follows it. -/
structure StartTag where
  name : String
  attributes : List (String × String)
  ending : TagEnd
  rest : List Char

/-- Reads a start tag from its name on. -/
def startTag (s : List Char) : StartTag :=
  let name := s.takeWhile isTagNameChar
  let (last, rest) := dropFiller (name.getLastD '<') (s.drop name.length)
  let (attributes, rest) := attributes (rest.length + 1) last rest
  let (ending, rest) := tagEnd rest
  ⟨Text.lower (.ofList name), attributes, ending, rest⟩

/-- The character may stand in the name of a proper end tag. -/
def isEndNameChar (c : Char) : Bool :=
  c.isAlphanum || c == '-' || c == '.' || c == ':' || c == '_'

/-- A name and `>`, with blanks around the name. -/
def properEndTag? (s : List Char) : Option (List Char × List Char) :=
  let s := s.dropWhile isBlank
  let name := s.takeWhile isEndNameChar
  match name, (s.drop name.length).dropWhile isBlank with
  | c :: _, '>' :: rest => if c.isAlpha then some (name, rest) else none
  | _, _ => none

/-- What an end tag amounts to: the end of an element, nothing, or a comment. -/
inductive EndTag where
  | name (name : String)
  | nothing
  | comment (text : List Char)

/-- Reads an end tag from after its slash; none if it is not closed. -/
def endTag? (s : List Char) : Option (EndTag × List Char) :=
  if !s.contains '>' then none
  else match properEndTag? s with
    | some (name, rest) => some (.name (Text.lower (.ofList name)), rest)
    | none =>
      let after (t : List Char) := (t.dropWhile (· != '>')).drop 1
      match s with
      | '>' :: rest => some (.nothing, rest)
      | c :: _ =>
        if c.isAlpha then
          let name := s.takeWhile isTagNameChar
          some (.name (Text.lower (.ofList name)), after (s.drop name.length))
        else some (.comment (s.takeWhile (· != '>')), after s)
      | [] => none

end PageAudit.Markup.Plain
