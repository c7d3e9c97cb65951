import PageAudit.Number.Shortest
import PageAudit.Text.Blank
import PageAudit.Text.Digit
import PageAudit.Text.Numeral

/-!
# How numbers are written and read

A number is written with the fewest digits that read back, with a point wherever its place is no
further than four noughts or sixteen digits away, and with an exponent of at least two digits
otherwise. Reading is more generous: blanks around the number, digits of any script, single
underscores between digits, and infinities and the number that is none in any letter case.
-/

namespace PageAudit.Double

/-- The digits before the point are this many, or none if it is negative. -/
def isPositional (point : Int) : Bool :=
  -4 < point && point ≤ 16

/-- A number of noughts in a row; none if it is negative. -/
def noughtRun (n : Int) : List Char :=
  List.replicate n.toNat '0'

/-- Digits with a point among them or noughts between them and the point. -/
def positionalText (digits : List Char) (point : Int) : List Char :=
  if point ≤ 0 then '0' :: '.' :: noughtRun (-point) ++ digits
  else if digits.length ≤ point then digits ++ noughtRun (point - digits.length) ++ ['.', '0']
  else digits.take point.toNat ++ '.' :: digits.drop point.toNat

/-- An exponent, with its sign and at least two digits. -/
def exponentText (e : Int) : List Char :=
  let digits := Nat.toDigits 10 e.natAbs
  'e' :: (if e < 0 then '-' else '+') :: (if digits.length < 2 then ['0'] else []) ++ digits

/-- Digits with the point after the first, and an exponent. -/
def scientificText (digits : List Char) (point : Int) : List Char :=
  digits.take 1 ++ (if digits.length ≤ 1 then [] else '.' :: digits.drop 1)
    ++ exponentText (point - 1)

/-- A finite number without its sign. -/
def unsignedText (significand : Nat) (exponent : Int) : List Char :=
  if significand == 0 then ['0', '.', '0']
  else
    let (coefficient, power) := shortest significand exponent
    let digits := Nat.toDigits 10 coefficient
    let point := digits.length + power
    if isPositional point then positionalText digits point else scientificText digits point

/-- A minus sign, or nothing. -/
def signText (negative : Bool) : List Char :=
  if negative then ['-'] else []

/-- A number as it is written. -/
def text : Double → String
  | finite negative significand exponent =>
    .ofList (signText negative ++ unsignedText significand exponent)
  | infinite negative => .ofList (signText negative ++ ['i', 'n', 'f'])
  | notANumber => "nan"

/-- Digits and blanks beyond ASCII count as those of ASCII. -/
def plainChar (c : Char) : Char :=
  if c.toNat < 127 then c
  else if Text.isBlank c then ' '
  else match Text.digitValue? c with
    | some n => Char.ofNat (48 + n)
    | none => c

/-- The character may stand around a number. -/
def isPadding (c : Char) : Bool :=
  c == ' ' || (9 ≤ c.toNat && c.toNat ≤ 13)

/-- Takes out underscores, each of which has to stand between two digits. -/
def withoutUnderscores (previous : Char) : List Char → Option (List Char)
  | [] => if previous == '_' then none else some []
  | c :: s =>
    if c == '_' then if previous.isDigit then withoutUnderscores c s else none
    else if previous == '_' && !c.isDigit then none
    else (withoutUnderscores c s).map (c :: ·)

/-- Whether a text starts with a minus sign, and the text without a sign at its start. -/
def readSign : List Char → Bool × List Char
  | '-' :: s => (true, s)
  | '+' :: s => (false, s)
  | s => (false, s)

/-- The exponent that makes up a whole text, which may be empty. -/
def readExponent? : List Char → Option Int
  | [] => some 0
  | c :: s =>
    if c == 'e' || c == 'E' then
      let (negative, digits) := readSign s
      if digits.isEmpty || !digits.all Char.isDigit then none
      else some (if negative then -Text.numeral 10 digits else Text.numeral 10 digits)
    else none

/-- A decimal number without a sign. -/
def readDecimal? (negative : Bool) (s : List Char) : Option Double :=
  let whole := s.takeWhile Char.isDigit
  let (places, rest) := match s.dropWhile Char.isDigit with
    | '.' :: s => (s.takeWhile Char.isDigit, s.dropWhile Char.isDigit)
    | s => ([], s)
  if whole.isEmpty && places.isEmpty then none
  else (readExponent? rest).map fun e =>
    ofDecimal negative (Text.numeral 10 (whole ++ places)) (e - places.length)

/-- A number without its sign, which may be a word. -/
def readUnsigned? (negative : Bool) (s : List Char) : Option Double :=
  let word := String.ofList (s.map Char.toLower)
  if word == "inf" || word == "infinity" then some (infinite negative)
  else if word == "nan" then some notANumber
  else readDecimal? negative s

/-- The number that a text stands for. -/
def parse? (s : String) : Option Double := do
  let chars ← withoutUnderscores ' ' (Text.dropEdges isPadding (s.toList.map plainChar))
  let (negative, chars) := readSign chars
  readUnsigned? negative chars

end PageAudit.Double
