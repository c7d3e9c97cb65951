import PageAudit.Text.Blank
import PageAudit.Text.Case

/-!
# The declared character set

A page declares its character set in a `meta` element near its start, either as an attribute of its
own or inside the value of `content`. The first form is looked for in the whole of the window
before the second. In either form the first `meta` that declares anything decides, and within it
the last declaration; letter case does not count.
-/

namespace PageAudit.Charset

/-- The number of bytes in which a declaration is looked for. -/
def window : Nat := 2048

/-- What a label is read as, for the labels that do not mean what they say. -/
def remapped : List (String × String) :=
  [("iso-8859-1", "windows-1252"), ("iso8859-1", "windows-1252"), ("iso88591", "windows-1252"),
    ("latin-1", "windows-1252"), ("latin1", "windows-1252"), ("us-ascii", "windows-1252"),
    ("ascii", "windows-1252"), ("iso-8859-9", "windows-1254"), ("iso-8859-11", "windows-874")]

/-- What a label is read as, which for most of them is the label. -/
def remap (label : String) : String :=
  (remapped.lookup label).getD label

/-- What `k` makes of the rest of the text after the longest run of characters in the class from
which `k` makes anything. -/
def afterRun (p : Char → Bool) (k : List Char → Option α) : List Char → Option α
  | [] => k []
  | c :: s => if p c then (afterRun p k s) <|> k (c :: s) else k (c :: s)

/-- As `afterRun`, for a run that may not be empty. -/
def afterSome (p : Char → Bool) (k : List Char → Option α) : List Char → Option α
  | [] => none
  | c :: s => if p c then afterRun p k s else none

/-- What `k` makes of the text after a word, if the text starts with the word. -/
def afterWord (w : String) (k : List Char → Option α) (s : List Char) : Option α :=
  if w.toList.isPrefixOf s then k (s.drop w.length) else none

/-- What `k` makes of the first end of the text from which it makes anything. -/
def firstFrom (k : List Char → Option α) : List Char → Option α
  | [] => k []
  | c :: s => k (c :: s) <|> firstFrom k s

/-- Either of the two marks that may stand around a value. -/
def isQuote (c : Char) : Bool :=
  c == '"' || c == '\''

/-- The character may stand in a label. -/
def isLabelChar (c : Char) : Bool :=
  !Text.isBlank c && !isQuote c && c != ';' && c != '>'

/-- The label with which the text starts. -/
def label? (s : List Char) : Option (List Char) :=
  let w := s.takeWhile isLabelChar
  if w.isEmpty then none else some w

/-- The label after at most one quote and any blanks. -/
def openLabel? (s : List Char) : Option (List Char) :=
  match s with
  | c :: t => label? ((if isQuote c then t else s).dropWhile Text.isBlank)
  | [] => none

/-- A declaration as an attribute of its own. -/
def attributeForm : List Char → Option (List Char) :=
  firstFrom <| afterWord "<meta" <| afterSome (· != '>') <| afterWord "charset=" openLabel?

/-- What `k` makes of the text after a quote, if the text starts with one. -/
def quoteThen (k : List Char → Option α) : List Char → Option α
  | c :: s => if isQuote c then k s else none
  | [] => none

/-- A declaration inside the value of `content`. -/
def contentForm : List Char → Option (List Char) :=
  firstFrom <| afterWord "<meta" <| afterSome (· != '>') <| afterWord "content=" <|
    quoteThen <| afterRun (!isQuote ·) <| afterWord "charset=" label?

/-- The part of the bytes that is searched, as small letters: the window less all that is not
ASCII. -/
def searched (bs : List UInt8) : List Char :=
  ((bs.take window).filter (· < 0x80)).map fun b => (Char.ofNat b.toNat).toLower

/-- The label that the bytes of a page declare, as it is to be read; `utf-8` if there is none. -/
def detect (bs : List UInt8) : String :=
  match attributeForm (searched bs) <|> contentForm (searched bs) with
  | some label => remap (.ofList label)
  | none => "utf-8"

end PageAudit.Charset
