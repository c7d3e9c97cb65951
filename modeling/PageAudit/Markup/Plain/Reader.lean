import PageAudit.Markup.Event
import PageAudit.Markup.Plain.Tag
import PageAudit.Text.Quoted

/-!
# Reading tags as they come

`read` takes the tags of the markup as they come and implies none. A construct that is not complete
is text; so is all the rest of the markup after a second numeric reference that cannot be read. Only
a marked section of an unknown kind makes the reader give up.
-/

namespace PageAudit.Markup.Plain

open Text (isBlank)

/-- The elements without content. -/
def voidNames : List String :=
  ["area", "base", "basefont", "bgsound", "br", "col", "command", "embed", "frame", "hr", "image",
    "img", "input", "isindex", "keygen", "link", "menuitem", "meta", "nextid", "param", "source",
    "spacer", "track", "wbr"]

/-- The elements whose content is raw. -/
def rawNames : List String := ["script", "style"]

/-- What has been read so far. -/
structure State where
  /-- An incomplete construct has been met: from now on none is waited for. -/
  ending : Bool := false
  /-- The raw element that is open. -/
  raw : Option String := none
  /-- The void elements whose end tags, should they follow, have been anticipated. -/
  closed : List String := []
  /-- The last event first. -/
  events : List Event := []

namespace State

/-- Adds an event. -/
def emit (st : State) (e : Event) : State :=
  { st with events := e :: st.events }

/-- Adds text, if there is any. -/
def text (st : State) (s : List Char) : State :=
  if s.isEmpty then st else st.emit (.text s)

/-- Adds a remark. -/
def remark (st : State) (kind : RemarkKind) (s : List Char) : State :=
  st.emit (.remark kind (.ofList s))

/-- An end tag that has been anticipated is crossed off and does nothing else. -/
def stop (st : State) (name : String) : State :=
  if st.closed.contains name then { st with closed := st.closed.erase name }
  else st.emit (.stop name)

/-- The attributes of a tag. Of attributes with one name the last value counts. -/
def attributesOf (name : String) (attributes : List (String × String)) : List Attribute :=
  attributes.foldl (fun kept (n, v) =>
    let a := attributeOf name n v
    if kept.any (·.name == n) then kept.map fun b => if b.name == n then a else b
    else kept ++ [a]) []

/-- Takes a start tag. A void element ends at once, and its end tag is anticipated. -/
def start (st : State) (tag : StartTag) : State :=
  let st := st.emit (.start tag.name (attributesOf tag.name tag.attributes))
  if tag.ending == .selfClosing then st.stop tag.name
  else if voidNames.contains tag.name then
    { st.emit (.stop tag.name) with closed := tag.name :: st.closed }
  else if rawNames.contains tag.name then { st with raw := some tag.name }
  else st

end State

/-- The text before the first place where `p` holds of what follows, and what follows. -/
def splitWhere (p : List Char → Bool) : List Char → Option (List Char × List Char)
  | [] => none
  | c :: s =>
    if p (c :: s) then some ([], c :: s)
    else (splitWhere p s).map fun (before, rest) => (c :: before, rest)

/-- The proper end tag of an element, in any letter case. -/
def isEndOf (name : String) : List Char → Bool
  | '<' :: '/' :: s =>
    match properEndTag? s with
    | some (n, _) => Text.lower (.ofList n) == name
    | none => false
  | _ => false

/-- A mark with blanks between its characters, and what follows. -/
def spaced? (mark : List Char) (s : List Char) : Option (List Char) :=
  match mark with
  | [] => some s
  | [c] => if s.head? == some c then some (s.drop 1) else none
  | c :: mark => if s.head? == some c then spaced? mark ((s.drop 1).dropWhile isBlank) else none

/-- Two dashes and, after blanks if need be, `>`. -/
def commentEnd? : List Char → Option (List Char)
  | '-' :: '-' :: s => spaced? ['>'] (s.dropWhile isBlank)
  | _ => none

/-- The text up to an ending, and what follows the ending. -/
def upTo? (ending : List Char → Option (List Char)) (s : List Char) :
    Option (List Char × List Char) := do
  let (before, rest) ← splitWhere (fun t => (ending t).isSome) s
  return (before, ← ending rest)

/-- The text up to the next `>`, and what follows that. -/
def upToClose? : List Char → Option (List Char × List Char) :=
  upTo? (spaced? ['>'])

/-- The character may stand in the name of a marked section. -/
def isSectionNameChar (c : Char) : Bool :=
  c.isAlphanum || c == '-' || c == '_' || c == '.'

/-- What is said of markup that is given up. -/
def rejection (reason : String) : String :=
  "The markup you provided was rejected by the parser. Trying a different parser or a different "
    ++ "encoding may help.\n\nOriginal exception(s) from parser:\n AssertionError: " ++ reason

/-- A construct with what it amounts to and what follows it; none if it is not complete. -/
abbrev Construct := Option (State × List Char)

/-- A marked section from after its opening bracket. `whole` is the text from its start. -/
def markedSection (st : State) (whole s : List Char) : Except String Construct :=
  match s with
  | [] => .ok none
  | c :: _ =>
    if !c.isAlpha then
      .error (rejection ("expected name token at " ++ Text.quoted (whole.take 20)))
    else
      let name := s.takeWhile isSectionNameChar
      let blanks := (s.drop name.length).takeWhile isBlank
      let kind := Text.lower (.ofList name)
      let closing (mark : List Char) : Construct :=
        (upTo? (spaced? mark) s).map fun (content, rest) =>
          let isData := (content.take 6).map Char.toUpper == "CDATA[".toList
          (st.remark (if isData then .cdata else .declaration)
            (if isData then content.drop 6 else content), rest)
      if (s.drop (name.length + blanks.length)).isEmpty then .ok none
      else if ["temp", "cdata", "ignore", "include", "rcdata"].contains kind then
        .ok (closing [']', ']', '>'])
      else if ["if", "else", "endif"].contains kind then .ok (closing [']', '>'])
      else .error (rejection
        ("unknown status keyword " ++ Text.quoted (name ++ blanks) ++ " in marked section"))

/-- What follows a `<!`. `whole` is the text from its start. -/
def declaration (st : State) (whole s : List Char) : Except String Construct :=
  match s with
  | '-' :: '-' :: s =>
    .ok ((upTo? commentEnd? s).map fun (text, rest) => (st.remark .comment text, rest))
  | '[' :: s => markedSection st whole s
  | s =>
    .ok ((upToClose? s).map fun (text, rest) =>
      if (text.take 7).map Char.toLower == "doctype".toList then
        (st.remark .doctype (text.drop 8), rest)
      else (st.remark .comment text, rest))

/-- A construct that starts with `<`, given what follows that. -/
def construct (st : State) (s : List Char) : Except String Construct :=
  match s with
  | '/' :: s =>
    .ok ((endTag? s).map fun (e, rest) => (match e with
      | .name n => st.stop n
      | .nothing => st
      | .comment text => st.remark .comment text, rest))
  | '!' :: t => declaration st ('<' :: s) t
  | '?' :: s => .ok ((upToClose? s).map fun (text, rest) => (st.remark .instruction text, rest))
  | c :: _ =>
    if c.isAlpha then
      let tag := startTag s
      match tag.ending with
      | .incomplete => .ok none
      | .broken =>
        .ok (some (st.text ('<' :: s.take (s.length - tag.rest.length)), tag.rest))
      | _ => .ok (some (st.start tag, tag.rest))
    else .ok (some (st.text ['<'], s))
  | [] => .ok none

/-- What an incomplete construct is when nothing more is to come: text up to the next `>`, or else
to the next `<`, or else its first character. -/
def asText (s : List Char) : List Char × List Char :=
  let rest := s.drop 1
  if rest.contains '>' then
    let text := rest.takeWhile (· != '>')
    ('<' :: text ++ ['>'], rest.drop (text.length + 1))
  else if rest.contains '<' then
    let text := rest.takeWhile (· != '<')
    ('<' :: text, rest.drop text.length)
  else (['<'], rest)

/-- A numeric reference, given what follows the ampersand. It must be followed by something that
is no digit of any kind. -/
def numeric? (s : List Char) : Option (Char × List Char) :=
  match Reference.number? s with
  | some (n, c :: rest) =>
    if Text.isHexDigit c then none
    else some (Reference.nonNull n, Reference.dropSemicolon (c :: rest))
  | _ => none

/-- The character may stand in the name of a reference. -/
def isReferenceNameChar (c : Char) : Bool :=
  c.isAlphanum || c == '-' || c == '.'

/-- The name of a reference, given what follows the ampersand, and what follows the name. The name
must be followed by something that is no letter or digit. -/
def referenceName? (s : List Char) : Option (List Char × List Char) :=
  let run := s.takeWhile isReferenceNameChar
  let rest := s.drop run.length
  if !rest.isEmpty then some (run, rest)
  else
    let tail := run.reverse.dropWhile Char.isAlphanum
    if tail.length < 2 then none
    else some ((tail.drop 1).reverse, s.drop (tail.length - 1))

/-- A name that is not known stays as it is, less its semicolon. -/
def namedText (name : List Char) : List Char :=
  match entities[String.ofList name]? with
  | some e => e.text
  | none => '&' :: name

/-- What remains at the end is text, unless a raw element is open. -/
def finish (st : State) (s : List Char) : List Event :=
  (if st.raw.isSome then st else st.text s).events.reverse

/-- Reads the events of a text. The fuel is more than twice the length of the text. -/
def scan : Nat → State → List Char → Except String (List Event)
  | 0, st, s => .ok (finish st s)
  | _, st, [] => .ok (finish st [])
  | fuel + 1, st, c :: s =>
    match st.raw with
    | some name =>
      match splitWhere (isEndOf name) (c :: s) with
      | none => .ok (finish st (c :: s))
      | some (text, rest) =>
        let st := (st.text text).stop name
        scan fuel { st with raw := none } ((rest.dropWhile (· != '>')).drop 1)
    | none =>
      if c == '<' then do
        match ← construct st s with
        | some (st, rest) => scan fuel st rest
        | none =>
          if s.isEmpty then return finish st (c :: s)
          else if st.ending then
            let (text, rest) := asText (c :: s)
            scan fuel (st.text text) rest
          else scan fuel { st with ending := true } (c :: s)
      else if c == '&' then
        match s with
        | '#' :: after =>
          match numeric? s with
          | some (d, rest) => scan fuel (st.text [d]) rest
          | none =>
            if !s.contains ';' then .ok (finish st (c :: s))
            else if st.ending then .ok (finish (st.text ['&', '#']) after)
            else scan fuel { st.text ['&', '#'] with ending := true } after
        | d :: after =>
          if d.isAlpha then
            match referenceName? s with
            | some (name, rest) =>
              scan fuel (st.text (namedText name)) (Reference.dropSemicolon rest)
            | none => .ok (finish st (if after.isEmpty then s else c :: s))
          else scan fuel (st.text ['&']) s
        | [] => .ok (finish st [c])
      else
        let text := s.takeWhile fun d => d != '<' && d != '&'
        scan fuel (st.text (c :: text)) (s.drop text.length)

/-- The nodes of a text, or the reason for which it is not read. -/
def read (text : String) : Except String (List Node) := do
  let chars := text.toList
  return nodesOf (← scan (2 * chars.length + 2) {} chars)

end PageAudit.Markup.Plain
