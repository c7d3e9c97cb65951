/-!
# Tokens

The pieces into which markup falls. Runs of white space are tokens of their own where a run starts,
since the rules of construction treat them differently from other text; white space inside a run of
other text belongs to that run.
-/

namespace PageAudit.Markup

/-- A tag with its attributes in the order of the text. -/
structure Tag where
  name : String
  attributes : List (String × String) := []
  selfClosing : Bool := false
  deriving DecidableEq, Repr

/-- A document type, which may name where it is defined. -/
structure Doctype where
  name : String := ""
  publicId : Option String := none
  systemId : Option String := none
  correct : Bool := true
  deriving DecidableEq, Repr

/-- A piece of markup. -/
inductive Token where
  | space (text : List Char)
  | text (text : List Char)
  | startTag (tag : Tag)
  | endTag (tag : Tag)
  | comment (text : List Char)
  | doctype (doctype : Doctype)
  deriving Repr

/-- How the text that follows is to be read: what kind of content it is, and for all kinds but
two the name of the element whose end tag ends it. -/
inductive Mode where
  | data
  | plain
  | title (element : List Char)
  | raw (element : List Char)
  | script (element : List Char)
  deriving DecidableEq, Repr

/-- White space of markup: tab, line feed, form feed, blank and carriage return. -/
def isSpace (c : Char) : Bool :=
  c == '\t' || c == '\n' || c == '\x0c' || c == ' ' || c == '\r'

/-- The null character is shown as a replacement character. -/
def shown (c : Char) : Char :=
  if c == '\x00' then '\ufffd' else c

/-- A name in small letters. -/
def lowerName (s : List Char) : String :=
  .ofList (s.map Char.toLower)

end PageAudit.Markup
