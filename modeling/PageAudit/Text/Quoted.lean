import PageAudit.Text.Numeral
import PageAudit.Text.Unseen

/-!
# Quoted text in messages

A text quoted in a message stands between single quotes, or between double quotes if it holds a
single quote and no double one. Backslashes, the quote itself and characters that cannot be seen
are escaped.
-/

namespace PageAudit.Text

/-- A character as it is written between quotes of a kind. -/
def quotedChar (quote c : Char) : List Char :=
  if c == quote || c == '\\' then ['\\', c]
  else if c == '\n' then ['\\', 'n']
  else if c == '\r' then ['\\', 'r']
  else if c == '\t' then ['\\', 't']
  else if isUnseen c then
    let n := c.toNat
    if n < 0x100 then '\\' :: 'x' :: hexDigits 2 n
    else if n < 0x10000 then '\\' :: 'u' :: hexDigits 4 n
    else '\\' :: 'U' :: hexDigits 8 n
  else [c]

/-- A text as it is quoted. -/
def quoted (s : List Char) : String :=
  let quote := if s.contains '\'' && !s.contains '"' then '"' else '\''
  .ofList (quote :: s.flatMap (quotedChar quote) ++ [quote])

end PageAudit.Text
