import PageAudit.Json.Basic
import PageAudit.Text.Numeral

/-!
# Reading JSON

`Json.parse?` reads one value with nothing but blanks around it. A string is read in two steps: its
escapes give a sequence of code points in which surrogates may occur (`readUnits`), and pairs of
surrogates are joined afterwards (`joinUnits`). Of members with one key the last value counts.
-/

namespace PageAudit.Json

/-- One of the four characters that may stand between the parts of a value. -/
def isSpace (c : Char) : Bool :=
  c == ' ' || c == '\n' || c == '\r' || c == '\t'

/-- The value of four hexadecimal digits. -/
def unitValue? (a b c d : Char) : Option Nat :=
  if [a, b, c, d].all Text.isHexDigit then some (Text.numeral 16 [a, b, c, d]) else none

/-- The character that a letter or a mark after a backslash stands for. -/
def simpleEscape? : Char → Option Char
  | '"' => some '"'
  | '\\' => some '\\'
  | '/' => some '/'
  | 'b' => some '\x08'
  | 'f' => some '\x0c'
  | 'n' => some '\n'
  | 'r' => some '\r'
  | 't' => some '\t'
  | _ => none

/-- The code points of a string up to its closing quote, and what follows the quote. -/
def readUnits : List Char → Option (List Nat × List Char)
  | [] => none
  | '"' :: s => some ([], s)
  | '\\' :: 'u' :: a :: b :: c :: d :: s => do
    let n ← unitValue? a b c d
    let (ns, rest) ← readUnits s
    return (n :: ns, rest)
  | '\\' :: c :: s => do
    let d ← simpleEscape? c
    let (ns, rest) ← readUnits s
    return (d.toNat :: ns, rest)
  | c :: s =>
    if c < ' ' then none
    else do
      let (ns, rest) ← readUnits s
      return (c.toNat :: ns, rest)

/-- Joins a high and a low surrogate to one character; a lone one becomes `U+FFFD`. -/
def joinUnits : List Nat → List Char
  | [] => []
  | [a] => if 0xD800 ≤ a && a < 0xE000 then ['\ufffd'] else [Char.ofNat a]
  | a :: b :: ns =>
    if 0xD800 ≤ a && a < 0xDC00 && 0xDC00 ≤ b && b < 0xE000 then
      Char.ofNat (0x10000 + (a - 0xD800) * 1024 + (b - 0xDC00)) :: joinUnits ns
    else if 0xD800 ≤ a && a < 0xE000 then '\ufffd' :: joinUnits (b :: ns)
    else Char.ofNat a :: joinUnits (b :: ns)

/-- The text of a string whose opening quote has been read. -/
def readString (s : List Char) : Option (String × List Char) := do
  let (ns, rest) ← readUnits s
  return (.ofList (joinUnits ns), rest)

/-- The sign and the digits of an exponent, if the text starts with one. -/
def readExponent : List Char → Option (Int × List Char)
  | e :: s =>
    if e == 'e' || e == 'E' then
      let (sign, s) : Int × List Char := match s with
        | '-' :: s => (-1, s)
        | '+' :: s => (1, s)
        | s => (1, s)
      let ds := s.takeWhile Char.isDigit
      if ds.isEmpty then none else some (sign * Text.numeral 10 ds, s.dropWhile Char.isDigit)
    else none
  | [] => none

/-- The digits after a point, if the text starts with a point and a digit. -/
def readFraction : List Char → Option (List Char × List Char)
  | '.' :: s =>
    let ds := s.takeWhile Char.isDigit
    if ds.isEmpty then none else some (ds, s.dropWhile Char.isDigit)
  | _ => none

/-- A number without its sign: whole if it has neither a fraction nor an exponent. -/
def readUnsigned (negative : Bool) (s : List Char) : Option (Json × List Char) :=
  let whole := s.takeWhile Char.isDigit
  let s := s.dropWhile Char.isDigit
  if whole.isEmpty then none
  else
    let n := Text.numeral 10 whole
    match readFraction s with
    | none =>
      match readExponent s with
      | none => some (int (if negative then -n else n), s)
      | some (e, s) => some (decimal ⟨negative, n, e⟩, s)
    | some (ds, s) =>
      let n := Text.numeral 10 (whole ++ ds)
      match readExponent s with
      | none => some (decimal ⟨negative, n, -ds.length⟩, s)
      | some (e, s) => some (decimal ⟨negative, n, e - ds.length⟩, s)

/-- A number, with a minus sign or none. -/
def readNumber : List Char → Option (Json × List Char)
  | '-' :: s => readUnsigned true s
  | s => readUnsigned false s

/-- The text without the space in front of it. -/
def dropSpace (s : List Char) : List Char :=
  s.dropWhile isSpace

mutual

/-- The fuel bounds the depth and the number of items, so the length of the text is enough. -/
def readValue : Nat → List Char → Option (Json × List Char)
  | 0, _ => none
  | fuel + 1, s =>
    match dropSpace s with
    | 'n' :: 'u' :: 'l' :: 'l' :: s => some (null, s)
    | 't' :: 'r' :: 'u' :: 'e' :: s => some (bool true, s)
    | 'f' :: 'a' :: 'l' :: 's' :: 'e' :: s => some (bool false, s)
    | '"' :: s => (readString s).map fun (t, rest) => (str t, rest)
    | '[' :: s =>
      match dropSpace s with
      | ']' :: s => some (arr [], s)
      | s => (readItems fuel s).map fun (xs, rest) => (arr xs, rest)
    | '\x7b' :: s =>
      match dropSpace s with
      | '\x7d' :: s => some (obj [], s)
      | s => (readMembers fuel [] s).map fun (ms, rest) => (obj ms, rest)
    | s => readNumber s

/-- One or more items up to the closing bracket. -/
def readItems : Nat → List Char → Option (List Json × List Char)
  | 0, _ => none
  | fuel + 1, s => do
    let (x, s) ← readValue fuel s
    match dropSpace s with
    | ',' :: s => do
      let (xs, rest) ← readItems fuel s
      return (x :: xs, rest)
    | ']' :: s => return ([x], s)
    | _ => none

/-- One or more members up to the closing brace, after those already read. -/
def readMembers : Nat → List (String × Json) → List Char →
    Option (List (String × Json) × List Char)
  | 0, _, _ => none
  | fuel + 1, before, s =>
    match dropSpace s with
    | '"' :: s => do
      let (k, s) ← readString s
      match dropSpace s with
      | ':' :: s => do
        let (x, s) ← readValue fuel s
        match dropSpace s with
        | ',' :: s => readMembers fuel (put k x before) s
        | '\x7d' :: s => return (put k x before, s)
        | _ => none
      | _ => none
    | _ => none

end

/-- The value that a text writes. -/
def parse? (s : String) : Option Json :=
  match readValue (s.length + 1) s.toList with
  | some (j, rest) => if rest.all isSpace then some j else none
  | none => none

end PageAudit.Json
