import PageAudit.Markup.Token.Scan

/-!
# Raw text

The content of some elements is text up to their end tag, whatever it looks like. In a script the
end tag does not count while a script inside a comment is open.
-/

namespace PageAudit.Markup

/-- After a `<`, the end tag of an element follows. -/
def closes (element : List Char) (s : List Char) : Bool :=
  match s with
  | '/' :: s =>
    (s.take element.length).map Char.toLower == element
      && match s.drop element.length with
        | c :: _ => endsTagName c
        | [] => false
  | _ => false

/-- The text up to the end tag of an element, after text that is kept last character first. -/
def rawText (element : List Char) (text : List Char) : List Char → List Char × List Char
  | [] => (text.reverse, [])
  | c :: s =>
    if c == '<' && closes element s then (text.reverse, c :: s)
    else rawText element (shown c :: text) s

/-- Where a script is: in plain code, in a comment, or in a script inside a comment, with the
number of dashes just read. `opening` and `closing` hold the name of a tag as far as it is read. -/
inductive ScriptState where
  | code
  | less
  | bang
  | bangDash
  | comment (dashes : Nat)
  | opening (name : List Char)
  | nested (dashes : Nat)
  | nestedLess
  | closing (name : List Char)

/-- A letter of ASCII. -/
def isAsciiLetter (c : Char) : Bool :=
  c.isAlpha

/-- The state after a character in plain code; none if the end tag of the script starts here. -/
def ScriptState.afterCode (element : List Char) (c : Char) (s : List Char) : Option ScriptState :=
  if c == '<' then if closes element s then none else some less else some code

/-- The same in a comment, with the number of dashes read right before. -/
def ScriptState.afterComment (element : List Char) (dashes : Nat) (c : Char) (s : List Char) :
    Option ScriptState :=
  if c == '-' then some (comment (min 2 (dashes + 1)))
  else if c == '<' then
    if closes element s then none
    else match s with
      | d :: _ => if isAsciiLetter d then some (opening []) else some (comment 0)
      | [] => some (comment 0)
  else if c == '>' && dashes == 2 then some code
  else some (comment 0)

/-- The state after a character in a script inside a comment, which no end tag of the script
ends. -/
def ScriptState.afterNested (dashes : Nat) (c : Char) : ScriptState :=
  if c == '-' then nested (min 2 (dashes + 1))
  else if c == '<' then nestedLess
  else if c == '>' && dashes == 2 then code
  else nested 0

/-- The name of a tag, which is kept last character first, is that of a script. -/
def isScriptName (name : List Char) : Bool :=
  name.reverse.map Char.toLower == "script".toList

/-- The state after a character; none if the end tag of the script starts here. -/
def ScriptState.next? (element : List Char) (state : ScriptState) (c : Char) (s : List Char) :
    Option ScriptState :=
  match state with
  | code => afterCode element c s
  | less => if c == '!' then some bang else afterCode element c s
  | bang => if c == '-' then some bangDash else afterCode element c s
  | bangDash => if c == '-' then some (comment 2) else afterCode element c s
  | comment dashes => afterComment element dashes c s
  | opening name =>
    if endsTagName c then some (if isScriptName name then nested 0 else comment 0)
    else if isAsciiLetter c then some (opening (c :: name))
    else afterComment element 0 c s
  | nested dashes => some (afterNested dashes c)
  | nestedLess => if c == '/' then some (closing []) else some (afterNested 0 c)
  | closing name =>
    if endsTagName c then some (if isScriptName name then comment 0 else nested 0)
    else if isAsciiLetter c then some (closing (c :: name))
    else some (afterNested 0 c)

/-- The text of a script up to its end tag, after text that is kept last character first. -/
def scriptText (element : List Char) (state : ScriptState) (text : List Char) :
    List Char → List Char × List Char
  | [] => (text.reverse, [])
  | c :: s =>
    match state.next? element c s with
    | none => (text.reverse, c :: s)
    | some state => scriptText element state (shown c :: text) s

end PageAudit.Markup
