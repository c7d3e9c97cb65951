/-!
# Letter case

Texts are folded only to be compared with words in ASCII letters. A fold therefore has to be exact
on the characters whose folded form is made of ASCII letters, and may leave every other character
as it is: neither it nor its folded form can be part of such a word.
-/

namespace PageAudit.Text

/-- The Kelvin sign is the one character outside ASCII whose small form is an ASCII letter. -/
def lowerChar (c : Char) : Char :=
  if c == '\u212a' then 'k' else c.toLower

/-- The text in small letters. -/
def lower (s : String) : String :=
  .ofList (s.toList.map lowerChar)

/-- The dotless i, the long s, the sharp s and the Latin ligatures have ASCII capitals. -/
def upperChar (c : Char) : List Char :=
  match c with
  | '\u0131' => ['I']
  | '\u017f' => ['S']
  | '\u00df' => ['S', 'S']
  | '\ufb00' => ['F', 'F']
  | '\ufb01' => ['F', 'I']
  | '\ufb02' => ['F', 'L']
  | '\ufb03' => ['F', 'F', 'I']
  | '\ufb04' => ['F', 'F', 'L']
  | '\ufb05' => ['S', 'T']
  | '\ufb06' => ['S', 'T']
  | c => [c.toUpper]

/-- The text in capitals. -/
def upper (s : String) : String :=
  .ofList (s.toList.flatMap upperChar)

end PageAudit.Text
