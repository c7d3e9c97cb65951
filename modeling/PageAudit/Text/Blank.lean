/-!
# Blank characters

The blank characters are Unicode white space together with the four information separators
`U+001C` to `U+001F`, which in the character database are separators of paragraphs and segments. A
byte order mark is no blank, but where text meets the edge of an element it is as invisible as one
(`isEdge`).
-/

namespace PageAudit.Text

/-- The character is blank. -/
def isBlank (c : Char) : Bool :=
  let n := c.toNat
  (9 ≤ n && n ≤ 13) || (28 ≤ n && n ≤ 32) || n == 0x85 || n == 0xA0 || n == 0x1680
    || (0x2000 ≤ n && n ≤ 0x200A) || n == 0x2028 || n == 0x2029 || n == 0x202F || n == 0x205F
    || n == 0x3000

/-- Blanks and the byte order mark. -/
def isEdge (c : Char) : Bool :=
  isBlank c || c == '\ufeff'

/-- Drops the characters of a class from both ends of a text and leaves its inside alone. -/
def dropEdges (p : Char → Bool) (s : List Char) : List Char :=
  ((s.dropWhile p).reverse.dropWhile p).reverse

/-- The maximal runs of characters outside the class, in order. -/
def wordsOf (p : Char → Bool) : List Char → List (List Char)
  | [] => []
  | c :: s =>
    if p c then wordsOf p s
    else match s with
      | [] => [[c]]
      | d :: _ =>
        if p d then [c] :: wordsOf p s
        else match wordsOf p s with
          | [] => [[c]]
          | w :: ws => (c :: w) :: ws

/-- The words of a text, parted by blanks. -/
def words (s : String) : List String :=
  (wordsOf isBlank s.toList).map .ofList

end PageAudit.Text
