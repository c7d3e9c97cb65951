import PageAudit.Charset.Decoding
import PageAudit.Dom.Page
import PageAudit.Failure

/-!
# Documents

A document is a page together with the name of the reader that read it and the warnings of those
that could not. Three readers are tried in a fixed order, or one that has been asked for; the first
that succeeds gives the document. How a reader gets from text to nodes is a parameter here, and so
are the tables by which some bytes become text: what is said of `Document.read` holds for any three
readers and any tables.
-/

namespace PageAudit

/-- The readers of markup. -/
inductive Reader where
  /-- Builds the tree that a browser builds. -/
  | browser
  /-- Builds a tree with the elements that the markup implies. -/
  | tolerant
  /-- Takes the tags as they come. -/
  | plain
  deriving DecidableEq, Repr

namespace Reader

/-- Every reader once, in the order in which they are tried. -/
def all : List Reader := [browser, tolerant, plain]

/-- The name by which a reader is asked for. -/
def label : Reader → String
  | browser => "html5lib"
  | tolerant => "lxml"
  | plain => "html.parser"

/-- The reader of a name. -/
def ofLabel? (s : String) : Option Reader :=
  all.find? (·.label = s)

/-- The names of all readers, in the order in which they are tried. -/
def labels : List String := all.map label

end Reader

/-- The three readers, and the tables by which they get at a text. -/
structure Readers where
  /-- What a reader makes of a text: nodes, or the reason why it cannot read it. -/
  parse : Reader → String → Except String (List Node)
  tables : Charset.Tables

/-- What may be given as markup: text, bytes, or a thing of another kind. -/
inductive Source where
  | text (text : String)
  | bytes (bytes : List UInt8)
  | other (kind : String)
  deriving DecidableEq, Repr

/-- A page, and how it came to be read: by which reader, and what is said of those before it. -/
structure Document where
  page : Page
  reader : String
  warnings : List String := []
  deriving Repr

namespace Document

/-- Why there is no document. -/
inductive Error where
  | notMarkup (kind : String)
  | blank
  | unknownReader (name : String)
  | unreadable (failures : List (Reader × String))
  | undecodable (error : Charset.Error)
  deriving DecidableEq, Repr

/-- The failure to report; bytes that cannot be decoded are a matter of their own. -/
def Error.failure? : Error → Option Failure
  | notMarkup kind =>
    some ⟨.parse, s!"Expected HTML text or bytes, got {kind}", [("type", .str kind)]⟩
  | blank => some ⟨.parse, "No HTML provided", []⟩
  | unknownReader name =>
    some ⟨.parse, s!"Unknown parser '{name}'",
      [("parser", .str name), ("available", .strs Reader.labels)]⟩
  | unreadable failures =>
    some ⟨.parse, "Failed to parse HTML",
      [("failures", .obj (failures.map fun (r, reason) => (r.label, .str reason)))]⟩
  | undecodable _ => none

/-- What is said of the error. -/
def Error.message (e : Error) : String :=
  match e with
  | undecodable e => e.message
  | e => (e.failure?.map Failure.message).getD ""

/-- An outcome and what has been written to the log on the way to it. -/
structure Logged (α : Type) where
  result : α
  log : List Log.Record

/-- The logger of all reading. -/
def logger : String := Log.partLogger "document"

/-- The warning that a reader has failed. -/
def failureNote (r : Reader) (reason : String) : String :=
  s!"{r.label} parsing failed: {reason}"

/-- The same in the log. -/
def failureRecord (f : Reader × String) : Log.Record :=
  ⟨Log.Level.warning, logger, failureNote f.1 f.2⟩

/-- The record that a reader has read a text. -/
def successRecord (r : Reader) (text : String) : Log.Record :=
  ⟨Log.Level.debug, logger, s!"Parsed {text.length} chars with {r.label}"⟩

/-- Tries readers one after the other. `failures` are those that have failed already. -/
def readWith (readers : Readers) (text : String) (failures : List (Reader × String)) :
    List Reader → Logged (Except Error Document)
  | [] => ⟨.error (.unreadable failures), failures.map failureRecord⟩
  | r :: rs =>
    match readers.parse r text with
    | .error reason => readWith readers text (failures ++ [(r, reason)]) rs
    | .ok nodes =>
      ⟨.ok ⟨⟨nodes⟩, r.label, failures.map fun f => failureNote f.1 f.2⟩,
        failures.map failureRecord ++ [successRecord r text]⟩

/-- The readers to try: the one asked for, or all of them. -/
def chain (asked : Option String) : Except Error (List Reader) :=
  match asked with
  | none => .ok Reader.all
  | some name =>
    match Reader.ofLabel? name with
    | some r => .ok [r]
    | none => .error (.unknownReader name)

/-- Reads a text. That it is blank is found out before the name of the reader is looked at. -/
def readText (readers : Readers) (asked : Option String) (text : String) :
    Logged (Except Error Document) :=
  if text.toList.all Text.isBlank then ⟨.error .blank, []⟩
  else match chain asked with
    | .error e => ⟨.error e, []⟩
    | .ok rs => readWith readers text [] rs

/-- Reads markup. Bytes are decoded as they declare. -/
def read (readers : Readers) (markup : Source) (asked : Option String := none) :
    Logged (Except Error Document) :=
  match markup with
  | .other kind => ⟨.error (.notMarkup kind), []⟩
  | .text text => readText readers asked text
  | .bytes bs =>
    match Charset.decode readers.tables bs with
    | .error e => ⟨.error (.undecodable e), []⟩
    | .ok d =>
      let r := readText readers asked d.text
      ⟨r.result, d.log ++ r.log⟩

end Document

end PageAudit
