import PageAudit.Markup.Entity

/-!
# Character references

A character reference is an ampersand followed by a number or a name. Readers agree on what numbers
and names are and differ in what they make of those that are out of range, unknown or unclosed:
`browser` is the reading in which nothing is lost, `lenient?` that of attribute values in which
code points that are no characters vanish, and `western` that of numbers below 256 as bytes.
-/

namespace PageAudit.Markup.Reference

/-- The characters at the code points from `80` to `9F` in Western code pages; where a code page
has none, the code point itself. -/
def western : List Char :=
  "€\x81‚ƒ„…†‡ˆ‰Š‹Œ\x8dŽ\x8f\x90‘’“”•–—˜™š›œ\x9džŸ".toList

/-- A number sign with at least one digit: the number and what follows its digits. -/
def number? : List Char → Option (Nat × List Char)
  | '#' :: x :: s =>
    if x == 'x' || x == 'X' then
      let digits := s.takeWhile Text.isHexDigit
      if digits.isEmpty then none else some (Text.numeral 16 digits, s.drop digits.length)
    else
      let digits := (x :: s).takeWhile Char.isDigit
      if digits.isEmpty then none else some (Text.numeral 10 digits, (x :: s).drop digits.length)
  | _ => none

/-- The number is that of half a character. -/
def isSurrogate (n : Nat) : Bool :=
  0xD800 ≤ n && n < 0xE000

/-- The character of a number, read as a byte of a Western code page if it is small. -/
def codePoint (n : Nat) : Char :=
  if 0x80 ≤ n && n < 0xA0 then western.getD (n - 0x80) '\ufffd'
  else if isSurrogate n || 0x10FFFF < n then '\ufffd'
  else Char.ofNat n

/-- As `codePoint`, without the null character. -/
def nonNull (n : Nat) : Char :=
  if n = 0 then '\ufffd' else codePoint n

/-- The text without a semicolon at its start. -/
def dropSemicolon : List Char → List Char
  | ';' :: s => s
  | s => s

/-- What follows a name that is not closed makes it no reference inside an attribute. -/
def continuesName : List Char → Bool
  | c :: _ => isAlphanumeric c || c == '='
  | [] => false

/-- The text that an ampersand before `s` stands for, and the rest of `s`. -/
def browser (inAttribute : Bool) (s : List Char) : List Char × List Char :=
  match number? s with
  | some (n, rest) => ([nonNull n], dropSemicolon rest)
  | none =>
    match s with
    | '#' :: 'x' :: rest => (['&', '#', 'x'], rest)
    | '#' :: 'X' :: rest => (['&', '#', 'X'], rest)
    | '#' :: rest => (['&', '#'], rest)
    | _ =>
      match named? s with
      | some m =>
        if inAttribute && !m.closed && continuesName m.rest then (['&'], s)
        else (m.text, m.rest)
      | none => (['&'], s)

/-- Replaces every reference in a text by what `read` makes of it. The fuel is the length of the
text. -/
def replaceFrom (read : List Char → List Char × List Char) : Nat → List Char → List Char
  | 0, s => s
  | _, [] => []
  | fuel + 1, '&' :: s =>
    let (text, rest) := read s
    text ++ replaceFrom read fuel rest
  | fuel + 1, c :: s => c :: replaceFrom read fuel s

/-- Replaces every reference in a text. -/
def replaceAll (read : List Char → List Char × List Char) (s : List Char) : List Char :=
  replaceFrom read s.length s

/-- The code points that are no characters and vanish from attribute values. -/
def isNonCharacter (n : Nat) : Bool :=
  (1 ≤ n && n ≤ 8) || n = 0xB || (0xE ≤ n && n ≤ 0x1F) || (0x7F ≤ n && n ≤ 0x9F)
    || (0xFDD0 ≤ n && n ≤ 0xFDEF) || (n % 0x10000 ≥ 0xFFFE && n ≤ 0x10FFFF)

/-- The number of characters after an ampersand that may be part of a name. -/
def nameSpan : Nat := 32

/-- The character may be part of a name in an attribute value. -/
def isNameChar (c : Char) : Bool :=
  !(c == '\t' || c == '\n' || c == '\x0c' || c == ' ' || c == '<' || c == '&' || c == '#'
    || c == ';')

/-- The longest beginning of at least two characters that names something, bare. -/
def longestOf (name : List Char) : Nat → Option (List Char × Nat)
  | 0 => none
  | 1 => none
  | n + 1 =>
    match entities[String.ofList (name.take (n + 1))]? with
    | some e => if e.bare then some (e.text, n + 1) else longestOf name n
    | none => longestOf name n

/-- The reading of attribute values in which a reference need not be closed. -/
def lenient (s : List Char) : List Char × List Char :=
  match number? s with
  | some (n, rest) =>
    let text :=
      if n = 0 then ['\ufffd']
      else if n = 0xD || (0x80 ≤ n && n < 0xA0) then [codePoint n]
      else if isSurrogate n || 0x10FFFF < n then ['\ufffd']
      else if isNonCharacter n then []
      else [Char.ofNat n]
    (text, dropSemicolon rest)
  | none =>
    let name := (s.take nameSpan).takeWhile isNameChar
    if name.isEmpty then (['&'], s)
    else
      let after := s.drop name.length
      let closed? := match after with
        | ';' :: rest => (entities[String.ofList name]?).map fun e => (e.text, rest)
        | _ => none
      match closed? with
      | some found => found
      | none =>
        match longestOf name name.length with
        | some (text, n) => (text, s.drop n)
        | none => (['&'], s)

end PageAudit.Markup.Reference
