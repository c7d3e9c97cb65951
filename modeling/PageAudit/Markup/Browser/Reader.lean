import PageAudit.Markup.Browser.StartTag

/-!
# Reading markup as browsers do

`read` constructs a page from markup: there is always an html element with a head and a body or a
set of frames, whatever the markup says. Tokens that turn up inside drawings and formulas follow
rules of their own as long as the current element is foreign and holds no ordinary markup.
-/

namespace PageAudit.Markup.Browser

namespace Build

/-- What white space does in the body. A line feed at the start of some elements is dropped. -/
def whiteSpaceInBody (text : List Char) : Build Unit := do
  let s ← get
  let kept ←
    if s.dropsLineFeed then do
      modify fun s => { s with dropsLineFeed := false }
      let i ← current
      let starts := hasName ["pre", "listing", "textarea"] s.draft i
        && (s.draft.entry i).children.isEmpty
      pure (if starts && text.head? == some '\n' then text.drop 1 else text)
    else pure text
  if !kept.isEmpty then
    reconstruct
    insertText kept

/-- Keeps text in a table until it is known to be white space or not. -/
def keepTableText (text : List Char) : Build Unit :=
  modify fun s => { s with
    tableText := if text == ['\x00'] then s.tableText else text :: s.tableText }

/-- Starts to keep text in a table. -/
def enterTableText (text : List Char) : Build Unit := do
  modify fun s => { s with afterTableText := s.phase, phase := .inTableText }
  keepTableText text

/-- What white space does in the phase that construction is in. -/
def whiteSpace (text : List Char) : Build Verdict := do
  match (← get).phase with
  | .initial => return .done
  | .beforeHtml => return .done
  | .beforeHead => return .done
  | .inBody => whiteSpaceInBody text
  | .afterAfterBody => whiteSpaceInBody text
  | .afterAfterFrameset => whiteSpaceInBody text
  | .inTable => enterTableText text
  | .inTableBody => enterTableText text
  | .inRow => enterTableText text
  | .inTableText => keepTableText text
  | _ => insertText text
  return .done

/-- What other text does in the phase that construction is in. -/
def otherText (text : List Char) : Build Verdict := do
  match (← get).phase with
  | .initial =>
    leaveInitial
    return .again
  | .beforeHtml =>
    openHtml
    return .again
  | .beforeHead =>
    openHead { name := "head" }
    return .again
  | .inHead =>
    closeHead
    return .again
  | .inHeadNoscript =>
    closeHeadNoscript
    return .again
  | .afterHead =>
    openBody
    return .again
  | .inColumnGroup =>
    endColumnGroup
    return .again
  | .afterBody => againIn .inBody
  | .afterAfterBody => againIn .inBody
  | .inFrameset => return .done
  | .afterFrameset => return .done
  | .afterAfterFrameset => return .done
  | .inTable =>
    enterTableText text
    return .done
  | .inTableBody =>
    enterTableText text
    return .done
  | .inRow =>
    enterTableText text
    return .done
  | .inTableText =>
    keepTableText text
    return .done
  | .text =>
    insertText text
    return .done
  | .inSelect =>
    if text != ['\x00'] then insertText text
    return .done
  | .inSelectInTable =>
    if text != ['\x00'] then insertText text
    return .done
  | .inBody =>
    textInBody text
    return .done
  | .inCaption =>
    textInBody text
    return .done
  | .inCell =>
    textInBody text
    return .done

/-- Where a comment goes in the phase that construction is in. -/
def comment (text : List Char) : Build Verdict := do
  match (← get).phase with
  | .inTableText =>
    flushTableText
    return .again
  | .initial => insertComment 0 text
  | .beforeHtml => insertComment 0 text
  | .afterAfterBody => insertComment 0 text
  | .afterAfterFrameset => insertComment 0 text
  | .afterBody => insertComment (← root) text
  | _ => insertComment (← current) text
  return .done

/-- What the public name of an old document type starts with. -/
def oldPublicIds : List String :=
  ["+//silmaril//dtd html pro v0r11 19970101//",
    "-//advasoft ltd//dtd html 3.0 aswedit + extensions//",
    "-//as//dtd html 3.0 aswedit + extensions//", "-//ietf//dtd html 2.0 level 1//",
    "-//ietf//dtd html 2.0 level 2//", "-//ietf//dtd html 2.0 strict level 1//",
    "-//ietf//dtd html 2.0 strict level 2//", "-//ietf//dtd html 2.0 strict//",
    "-//ietf//dtd html 2.0//", "-//ietf//dtd html 2.1e//", "-//ietf//dtd html 3.0//",
    "-//ietf//dtd html 3.2 final//", "-//ietf//dtd html 3.2//", "-//ietf//dtd html 3//",
    "-//ietf//dtd html level 0//", "-//ietf//dtd html level 1//", "-//ietf//dtd html level 2//",
    "-//ietf//dtd html level 3//", "-//ietf//dtd html strict level 0//",
    "-//ietf//dtd html strict level 1//", "-//ietf//dtd html strict level 2//",
    "-//ietf//dtd html strict level 3//", "-//ietf//dtd html strict//", "-//ietf//dtd html//",
    "-//metrius//dtd metrius presentational//",
    "-//microsoft//dtd internet explorer 2.0 html strict//",
    "-//microsoft//dtd internet explorer 2.0 html//",
    "-//microsoft//dtd internet explorer 2.0 tables//",
    "-//microsoft//dtd internet explorer 3.0 html strict//",
    "-//microsoft//dtd internet explorer 3.0 html//",
    "-//microsoft//dtd internet explorer 3.0 tables//", "-//netscape comm. corp.//dtd html//",
    "-//netscape comm. corp.//dtd strict html//", "-//o'reilly and associates//dtd html 2.0//",
    "-//o'reilly and associates//dtd html extended 1.0//",
    "-//o'reilly and associates//dtd html extended relaxed 1.0//",
    "-//softquad software//dtd hotmetal pro 6.0::19990601::extensions to html 4.0//",
    "-//softquad//dtd hotmetal pro 4.0::19971010::extensions to html 4.0//",
    "-//spyglass//dtd html 2.0 extended//", "-//sq//dtd html 2.0 hotmetal + extensions//",
    "-//sun microsystems corp.//dtd hotjava html//",
    "-//sun microsystems corp.//dtd hotjava strict html//",
    "-//w3c//dtd html 3 1995-03-24//", "-//w3c//dtd html 3.2 draft//",
    "-//w3c//dtd html 3.2 final//", "-//w3c//dtd html 3.2//", "-//w3c//dtd html 3.2s draft//",
    "-//w3c//dtd html 4.0 frameset//", "-//w3c//dtd html 4.0 transitional//",
    "-//w3c//dtd html experimental 19960712//", "-//w3c//dtd html experimental 970421//",
    "-//w3c//dtd w3 html//", "-//w3o//dtd w3 html 3.0//", "-//webtechs//dtd mozilla html 2.0//",
    "-//webtechs//dtd mozilla html//"]

/-- The public names of other old document types. -/
def oldExactIds : List String :=
  ["-//w3o//dtd w3 html strict 3.0//en//", "-/w3c/dtd html 4.0 transitional/en", "html"]

/-- A page with this document type is laid out as old pages were. -/
def isOld (d : Doctype) : Bool :=
  let publicId := (d.publicId.getD "").toLower
  let starts (ids : List String) := ids.any fun id => id.toList.isPrefixOf publicId.toList
  !d.correct || d.name != "html" || starts oldPublicIds || oldExactIds.contains publicId
    || (d.systemId.isNone && starts ["-//w3c//dtd html 4.01 frameset//",
      "-//w3c//dtd html 4.01 transitional//"])
    || (d.systemId.getD "").toLower
      == "http://www.ibm.com/data/dtd/v11/ibmxhtml1-transitional.dtd"

/-- A document type counts only if nothing but comments has come before it. -/
def doctype (d : Doctype) : Build Verdict := do
  if (← get).phase == .initial then
    insertRemark 0 (.doctype d.name)
    modify fun s => { s with oldLayout := isOld d, phase := .beforeHtml }
  return .done

/-- Looks at a token in the phase that construction is in. -/
def ordinary : Token → Build Verdict
  | .space text => whiteSpace text
  | .text text => otherText text
  | .startTag tag => startTag tag
  | .endTag tag => endTag tag.name
  | .comment text => comment text
  | .doctype d => doctype d

/-- The value of an attribute as one text. -/
def attributeText (d : Draft) (i : Nat) (name : String) : Option String :=
  ((d.attributes i).find? (·.name == name)).bind (·.value.text?)

/-- A foreign element that holds ordinary markup. -/
def holdsMarkup (d : Draft) (i : Nat) : Bool :=
  match d.kind? i with
  | some k =>
    if k == ⟨.math, "annotation-xml"⟩ then
      (attributeText d i "encoding").any fun v =>
        ["text/html", "application/xhtml+xml"].contains v.toLower
    else Kind.svgTexts.contains k
  | none => false

/-- An element of a formula that holds text. -/
def isMathText (d : Draft) (i : Nat) : Bool :=
  (d.kind? i).any Kind.mathTexts.contains

/-- The token follows the ordinary rules although the current element may be foreign. -/
def isOrdinary (d : Draft) (i : Nat) (token : Token) : Bool :=
  let k := (d.kind? i).getD (.html "")
  let isText := match token with
    | .space _ => true
    | .text _ => true
    | _ => false
  let start? := match token with
    | .startTag tag => some tag.name
    | _ => none
  k.space == .html
    || (isMathText d i && (isText || start?.any fun n => !(["mglyph", "malignmark"].contains n)))
    || (k == ⟨.math, "annotation-xml"⟩ && start? == some "svg")
    || (holdsMarkup d i && (isText || start?.isSome))

/-- The tag ends foreign content wherever it starts. -/
def endsForeign (tag : Tag) : Bool :=
  breakouts.contains tag.name
    || (tag.name == "font" && tag.attributes.any fun a => ["color", "face", "size"].contains a.1)

/-- What a start tag does inside foreign content. -/
def startForeign (tag : Tag) : Build Verdict := do
  if endsForeign tag then
    popTo fun d i => ((d.kind? i).map Kind.space).getD .html == .html
      || holdsMarkup d i || isMathText d i
    return .again
  else
    let k ← currentKind
    insertForeign k.space (if k.space == .svg then { tag with name := spelled svgElements tag.name }
      else tag)
    return .done

/-- Looks for the element that an end tag closes, from the current element up through foreign
ones. Text kept in a table is put in its place before anything is closed. -/
def endForeign (name : String) : List Nat → Build Verdict
  | [] => return .done
  | i :: stack => do
    if (← nameOf i).toLower == name then
      if (← get).phase == .inTableText then flushTableText
      popPast fun _ j => j == i
      return .done
    else match stack with
      | [] => return .done
      | j :: _ =>
        if (← kindOf j).space == .html then endTag name
        else endForeign name stack

/-- Looks at a token inside foreign content. -/
def foreign : Token → Build Verdict
  | .space text => do
    insertText text
    return .done
  | .text text => do
    if text == ['\x00'] then insertText ['\ufffd']
    else
      if text.any (!isSpace ·) then forbidFrames
      insertText text
    return .done
  | .startTag tag => startForeign tag
  | .endTag tag => do endForeign tag.name (← get).stack
  | .comment text => do
    insertComment (← current) text
    return .done
  | .doctype _ => return .done

/-- Looks at a token as the current element demands. -/
def lookAt (token : Token) : Build Verdict := do
  let s ← get
  match s.stack with
  | [] => ordinary token
  | i :: _ => if isOrdinary s.draft i token then ordinary token else foreign token

/-- Looks at a token until it has been dealt with. -/
def process (token : Token) : Nat → Build Unit
  | 0 => pure ()
  | fuel + 1 => do
    match ← lookAt token with
    | .done => pure ()
    | .again => process token fuel

/-- A token is looked at again only in another phase or after something has been closed. -/
def processFuel (s : State) : Nat :=
  64 + 4 * s.stack.length

/-- Takes a token. An end tag leads back to ordinary content, whatever else it does. -/
def take (token : Token) : Build Unit := do
  modify fun s => { s with mode := s.mode.after token }
  process token (processFuel (← get))

/-- Marked sections are read as such inside foreign content. -/
def sectionsAllowed (s : State) : Bool :=
  match s.stack with
  | i :: _ => ((s.draft.kind? i).map Kind.space).getD .html != .html
  | [] => false

/-- Takes the tokens of a text. The fuel is more than the length of the text. -/
def takeAll : Nat → List Char → Build Unit
  | 0, _ => pure ()
  | _, [] => pure ()
  | fuel + 1, c :: text => do
    let s ← get
    let step := s.mode.step (sectionsAllowed s) c text
    match step.token with
    | some token => take token
    | none => modify fun s => { s with mode := if step.rest.isEmpty then .data else s.mode }
    takeAll fuel step.rest

/-- What the end of the markup does in a phase; true if there is more to do in the next one. -/
def finishPhase : Build Bool := do
  match (← get).phase with
  | .initial =>
    leaveInitial
    return true
  | .beforeHtml =>
    openHtml
    return true
  | .beforeHead =>
    openHead { name := "head" }
    return true
  | .inHead =>
    closeHead
    return true
  | .inHeadNoscript =>
    closeHeadNoscript
    return true
  | .afterHead =>
    openBody
    return true
  | .text =>
    discard pop
    modify fun s => { s with phase := s.afterText }
    return true
  | .inTableText =>
    flushTableText
    return true
  | .inColumnGroup =>
    endColumnGroup
    return true
  | _ => return false

/-- Does what the end of the markup demands, through so many phases at most. -/
def finish : Nat → Build Unit
  | 0 => pure ()
  | fuel + 1 => do
    if ← finishPhase then finish fuel

/-- Longer than any way through the phases. -/
def finishFuel : Nat := 32

end Build

/-- The page that a text constructs, or the reason for which construction breaks off. -/
def read (text : String) : Except String (List Node) := do
  let chars := unifyLineBreaks text.toList
  let build : Build Unit := do
    Build.takeAll (chars.length + 1) chars
    Build.finish Build.finishFuel
  let ((), s) ← build.run {}
  return s.draft.nodes

end PageAudit.Markup.Browser
