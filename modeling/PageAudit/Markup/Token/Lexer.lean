import PageAudit.Markup.Token.RawText

/-!
# Reading tokens

`next?` reads one token. How text is read depends on the `Mode`, and whether a marked section may
stand here on where the construction of the page has got to; both are given from outside.
-/

namespace PageAudit.Markup

/-- Line breaks are written as single line feeds. -/
def unifyLineBreaks : List Char → List Char
  | '\r' :: '\n' :: s => '\n' :: unifyLineBreaks s
  | '\r' :: s => '\n' :: unifyLineBreaks s
  | c :: s => c :: unifyLineBreaks s
  | [] => []

/-- A token, if the text read comes to one, and what follows. -/
structure Step where
  token : Option Token
  rest : List Char

/-- Text as a token: white space if it is nothing else. -/
def Token.ofText (s : List Char) : Token :=
  if s.all isSpace then .space s else .text s

/-- A reference that stands for a single blank counts as white space. -/
def referenceStep (s : List Char) : Step :=
  let (text, rest) := Reference.browser false s
  ⟨some (.ofText text), rest⟩

/-- A run of text in which references count, up to the next ampersand, `<` or null character. -/
def textStep (c : Char) (s : List Char) : Step :=
  if isSpace c then
    let (run, rest) := s.span isSpace
    ⟨some (.space (c :: run)), rest⟩
  else
    let (run, rest) := s.span fun d => d != '&' && d != '<' && d != '\x00'
    ⟨some (.text (c :: run)), rest⟩

/-- A comment that has been scanned. -/
def commentStep (scanned : List Char × List Char) : Step :=
  ⟨some (.comment scanned.1), scanned.2⟩

/-- After `<!`. -/
def declarationStep (sections : Bool) (s : List Char) : Step :=
  match s with
  | '-' :: '-' :: s => commentStep (scanComment .start [] s)
  | _ =>
    match afterWord? "doctype" s with
    | some s =>
      let (d, rest) := scanDoctype s
      ⟨some (.doctype d), rest⟩
    | none =>
      if sections && "[CDATA[".toList.isPrefixOf s then
        let (text, rest) := scanMarkedSection [] (s.drop 7)
        ⟨if text.isEmpty then none else some (.text text), rest⟩
      else commentStep (scanBogusComment s)

/-- A tag from its name on. What is broken off gives no token, and nothing follows. -/
def tagStep (make : Tag → Token) (s : List Char) : Step :=
  match scanNamedTag s with
  | some (tag, rest) => ⟨some (make tag), rest⟩
  | none => ⟨none, []⟩

/-- After `<` where markup counts. -/
def markupStep (sections : Bool) (s : List Char) : Step :=
  match s with
  | '!' :: s => declarationStep sections s
  | '/' :: s =>
    match s with
    | '>' :: s => ⟨none, s⟩
    | [] => ⟨some (.text ['<', '/']), []⟩
    | c :: _ => if isAsciiLetter c then tagStep .endTag s else commentStep (scanBogusComment s)
  | '?' :: _ => commentStep (scanBogusComment s)
  | '>' :: s => ⟨some (.text ['<', '>']), s⟩
  | c :: _ => if isAsciiLetter c then tagStep .startTag s else ⟨some (.text ['<']), s⟩
  | [] => ⟨some (.text ['<']), []⟩

/-- Text up to the end tag that starts the rest of the input, or that end tag. -/
def rawStep (scanned : List Char × List Char) : Step :=
  match scanned with
  | ([], '<' :: '/' :: s) => tagStep .endTag s
  | ([], rest) => ⟨none, rest⟩
  | (text, rest) => ⟨some (.text text), rest⟩

/-- The first token of a text that is not empty, in a mode. -/
def Mode.step (mode : Mode) (sections : Bool) (c : Char) (s : List Char) : Step :=
  match mode with
  | data =>
    if c == '&' then referenceStep s
    else if c == '<' then markupStep sections s
    else if c == '\x00' then ⟨some (.text [c]), s⟩
    else textStep c s
  | plain => ⟨some (.text ((c :: s).map shown)), []⟩
  | title element =>
    if c == '&' then referenceStep s
    else if c == '<' then
      if closes element s then tagStep .endTag (s.drop 1) else ⟨some (.text [c]), s⟩
    else if c == '\x00' then ⟨some (.text ['\ufffd']), s⟩
    else textStep c s
  | raw element => rawStep (rawText element [] (c :: s))
  | script element => rawStep (scriptText element .code [] (c :: s))

/-- An end tag leads back to ordinary content. -/
def Mode.after (mode : Mode) : Token → Mode
  | .endTag _ => data
  | _ => mode

end PageAudit.Markup
