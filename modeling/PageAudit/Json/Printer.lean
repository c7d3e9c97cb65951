import PageAudit.Json.Basic
import PageAudit.Text.Numeral

/-!
# Writing JSON

A value is written on one line (`compress`) or with every item on a line of its own, two blanks
deeper than what holds it (`pretty`). An empty array or object stays on one line either way. Which
characters of a text are written as escapes is decided by an `Escaping`: both escape the quote, the
backslash and the control characters, and `ascii` escapes all that is not printable ASCII.
-/

namespace PageAudit.Json

/-- Which characters of a text are written as escapes, of those that need not be. -/
inductive Escaping where
  | minimal
  | ascii
  deriving DecidableEq, Repr

/-- The escape of a sixteen bit unit, with four small hexadecimal digits. -/
def unitEscape (n : Nat) : List Char :=
  '\\' :: 'u' :: Text.hexDigits 4 n

/-- One unit, or two surrogates for a character beyond the basic plane. -/
def charEscape (c : Char) : List Char :=
  let n := c.toNat
  if n < 0x10000 then unitEscape n
  else unitEscape (0xD800 + (n - 0x10000) / 1024) ++ unitEscape (0xDC00 + (n - 0x10000) % 1024)

/-- The character may stand for itself. -/
def Escaping.isRaw (e : Escaping) (c : Char) : Bool :=
  match e with
  | minimal => ' ' ≤ c
  | ascii => ' ' ≤ c && c ≤ '~'

/-- A character as it is written in a string. Where there is a short escape, it is used. -/
def Escaping.char (e : Escaping) (c : Char) : List Char :=
  match c with
  | '"' => ['\\', '"']
  | '\\' => ['\\', '\\']
  | '\n' => ['\\', 'n']
  | '\r' => ['\\', 'r']
  | '\t' => ['\\', 't']
  | '\x08' => ['\\', 'b']
  | '\x0c' => ['\\', 'f']
  | c => if e.isRaw c then [c] else charEscape c

/-- A text as a string. -/
def quoted (e : Escaping) (s : String) : List Char :=
  '"' :: (s.toList.flatMap e.char ++ ['"'])

/-- A number is written as a whole coefficient and a power of ten. -/
def Decimal.text (d : Decimal) : List Char :=
  (if d.negative then ['-'] else []) ++ (toString d.coefficient).toList ++ 'e'
    :: (toString d.exponent).toList

/-- What stands before an item at a depth: nothing on one line, else a line break and blanks. -/
def lead (indented : Bool) (depth : Nat) : List Char :=
  if indented then '\n' :: List.replicate (2 * depth) ' ' else []

/-- What stands between a key and its value. -/
def colon (indented : Bool) : List Char :=
  if indented then [':', ' '] else [':']

mutual

/-- Writes a value that begins at a depth. -/
def write (e : Escaping) (indented : Bool) (depth : Nat) : Json → List Char
  | null => "null".toList
  | bool true => "true".toList
  | bool false => "false".toList
  | int n => (toString n).toList
  | decimal d => d.text
  | str s => quoted e s
  | arr [] => ['[', ']']
  | arr (x :: xs) =>
    '[' :: (lead indented (depth + 1) ++ write e indented (depth + 1) x
      ++ writeItems e indented (depth + 1) xs ++ lead indented depth ++ [']'])
  | obj [] => ['\x7b', '\x7d']
  | obj ((k, x) :: ms) =>
    '\x7b' :: (lead indented (depth + 1) ++ quoted e k ++ colon indented
      ++ write e indented (depth + 1) x ++ writeMembers e indented (depth + 1) ms
      ++ lead indented depth ++ ['\x7d'])

/-- The items of an array after its first. -/
def writeItems (e : Escaping) (indented : Bool) (depth : Nat) : List Json → List Char
  | [] => []
  | x :: xs => ',' :: (lead indented depth ++ write e indented depth x
      ++ writeItems e indented depth xs)

/-- The members of an object after its first. -/
def writeMembers (e : Escaping) (indented : Bool) (depth : Nat) :
    List (String × Json) → List Char
  | [] => []
  | (k, x) :: ms => ',' :: (lead indented depth ++ quoted e k ++ colon indented
      ++ write e indented depth x ++ writeMembers e indented depth ms)

end

/-- The value with every item on a line of its own. -/
def pretty (e : Escaping) (j : Json) : String :=
  .ofList (write e true 0 j)

/-- The value on one line, in ASCII. -/
def compress (j : Json) : String :=
  .ofList (write .ascii false 0 j)

end PageAudit.Json
