import PageAudit.Markup.Browser.Formatting

/-!
# End tags

What an end tag does in each phase. Inside a table most of the work is handed on to the body, with
all that it inserts being fostered.
-/

namespace PageAudit.Markup.Browser.Build

/-- The reason for breaking off where only a piece of a page could have led. -/
def onlyInPieces : String := ""

/-- Deals with a token by doing nothing. -/
def ignore : Build Verdict :=
  return .done

/-- Reaches another phase and looks at the token again there. -/
def againIn (p : Phase) : Build Verdict := do
  setPhase p
  return .again

/-- Opens the html element without a tag for it. -/
def openHtml : Build Unit := do
  let i ← create (.html "html") []
  modifyDraft (·.append 0 i)
  push i
  setPhase .beforeHead

/-- Opens the head. -/
def openHead (tag : Tag) : Build Unit := do
  insert tag
  let i ← current
  modify fun s => { s with head := some i, phase := .inHead }

/-- Closes the head. -/
def closeHead : Build Unit := do
  discard pop
  setPhase .afterHead

/-- Closes what stands in the head for those who run no scripts. -/
def closeHeadNoscript : Build Unit := do
  discard pop
  setPhase .inHead

/-- Opens the body without a tag for it. -/
def openBody : Build Unit := do
  insertNamed "body"
  modify fun s => { s with phase := .inBody, framesAllowed := true }

/-- A page without a document type is laid out as old pages were. -/
def leaveInitial : Build Unit :=
  modify fun s => { s with oldLayout := true, phase := .beforeHtml }

/-- The names whose start or end tag at the start of the page implies the html element. -/
def pageNames : List String := ["head", "body", "html", "br"]

/-- The blocks whose end tag closes whatever is open inside them. -/
def blockEnds : List String :=
  ["address", "article", "aside", "blockquote", "button", "center", "details", "dialog", "dir",
    "div", "dl", "fieldset", "figcaption", "figure", "footer", "header", "hgroup", "listing",
    "main", "menu", "nav", "ol", "pre", "section", "summary", "ul"]

/-- The formatting elements. -/
def formattingNames : List String :=
  ["a", "b", "big", "code", "em", "font", "i", "nobr", "s", "small", "strike", "strong", "tt",
    "u"]

/-- The elements in which no formatting element from outside is opened anew. -/
def objectNames : List String := ["applet", "marquee", "object"]

/-- Closes the open paragraph. If there is none, an empty one is left behind. -/
def endParagraph : Build Unit := do
  if !(← inScope "p" .button) then insertNamed "p"
  endImplied (some "p")
  popPastName "p"

/-- Closes a paragraph that is open here. -/
def closeParagraph : Build Unit := do
  if ← inScope "p" .button then endParagraph

/-- Closes a block, if it is open. -/
def endBlock (name : String) : Build Unit := do
  if name == "pre" then modify fun s => { s with dropsLineFeed := false }
  if ← inScope name then
    endImplied
    popPastName name

/-- Closes the form. What is open inside it stays open. -/
def endForm : Build Unit := do
  let form := (← get).form
  modify fun s => { s with form := none }
  match form with
  | none => pure ()
  | some i =>
    if ← entryInScope i then
      endImplied
      removeOpen i

/-- Closes an item of a list, if it is open in this list. -/
def endListItem (name : String) : Build Unit := do
  if ← inScope name (if name == "li" then .list else .default) then
    endImplied (some name)
    popPastName name

/-- Closes the innermost heading, of whatever level. -/
def endHeading : Build Unit := do
  if ← anyInScope headingNames then endImplied
  if ← anyInScope headingNames then popPast (hasName headingNames)

/-- Closes an object and forgets the formatting elements in it. -/
def endObject (name : String) : Build Unit := do
  if ← inScope name then endImplied
  if ← inScope name then
    popPastName name
    clearFormatting

/-- Leaves the body, which stays open for what may yet follow. -/
def endBody : Build Unit := do
  if ← inScope "body" then setPhase .afterBody

/-- Inserts a line break, which is what its end tag does. -/
def insertBreak : Build Unit := do
  reconstruct
  insertVoid { name := "br" }

/-- What an end tag does in the body. -/
def endInBody (name : String) : Build Verdict := do
  if name == "html" then
    if ← inScope "body" then
      endBody
      return .again
    else return .done
  else
    if name == "body" then endBody
    else if blockEnds.contains name then endBlock name
    else if name == "form" then endForm
    else if name == "p" then endParagraph
    else if ["dd", "dt", "li"].contains name then endListItem name
    else if headingNames.contains name then endHeading
    else if formattingNames.contains name then adopt name
    else if objectNames.contains name then endObject name
    else if name == "br" then insertBreak
    else endOther name
    return .done

/-- Does something with all that it inserts being fostered. -/
def fostered (act : Build α) : Build Unit := do
  modify fun s => { s with fostering := true }
  discard act
  modify fun s => { s with fostering := false }

/-- What text other than white space does in the body. A lone null character is dropped. -/
def textInBody (text : List Char) : Build Unit := do
  if text != ['\x00'] then
    reconstruct
    insertText text
    if text.any (!isSpace ·) then forbidFrames

/-- Puts the text that has come up in a table where it belongs, and goes back. -/
def flushTableText : Build Unit := do
  let text := (← get).tableText.reverse.flatten
  if text.any (!isSpace ·) then fostered (textInBody text)
  else if !text.isEmpty then insertText text
  modify fun s => { s with tableText := [], phase := s.afterTableText }

/-- The phase in which the content of an element goes on. -/
def contentPhase? : String → Option Phase
  | "td" => some .inCell
  | "th" => some .inCell
  | "tr" => some .inRow
  | "tbody" => some .inTableBody
  | "thead" => some .inTableBody
  | "tfoot" => some .inTableBody
  | "caption" => some .inCaption
  | "table" => some .inTable
  | "body" => some .inBody
  | "frameset" => some .inFrameset
  | _ => none

/-- The phase for the innermost element that has one. The search never gets to the bottom of the
stack or to an element that only a piece of a page could have left open. -/
def phaseOf (d : Draft) : List Nat → Except String Phase
  | [] => .error onlyInPieces
  | [_] => .error onlyInPieces
  | i :: stack =>
    match d.kind? i with
    | some ⟨space, name⟩ =>
      if ["select", "colgroup", "head", "html"].contains name then .error onlyInPieces
      else if space != .html then phaseOf d stack
      else match contentPhase? name with
        | some p => .ok p
        | none => phaseOf d stack
    | none => phaseOf d stack

/-- Goes back to the phase of what is open now. -/
def resetPhase : Build Unit := do
  let s ← get
  match phaseOf s.draft s.stack with
  | .ok p => setPhase p
  | .error reason => throw reason

/-- Closes the table. -/
def endTable : Build Unit := do
  if ← inScope "table" .table then
    endImplied
    popPastName "table"
    resetPhase
  else throw onlyInPieces

/-- Closes the caption of a table. -/
def endCaption : Build Unit := do
  if ← inScope "caption" .table then
    endImplied
    popPastName "caption"
    clearFormatting
    setPhase .inTable
  else throw onlyInPieces

/-- Closes a group of columns. -/
def endColumnGroup : Build Unit := do
  if (← currentName) == "html" then throw onlyInPieces
  discard pop
  setPhase .inTable

/-- Closes what is open inside the group of rows. -/
def clearToGroup : Build Unit :=
  popTo (hasName ("html" :: rowGroups))

/-- Closes a group of rows of this name, if it is open. -/
def endRowGroup (name : String) : Build Unit := do
  if ← inScope name .table then
    clearToGroup
    discard pop
    setPhase .inTable

/-- Closes the group of rows that is open, whichever it is. -/
def leaveRowGroup : Build Verdict := do
  if ← anyInScope ["tbody", "thead", "tfoot"] .table then
    clearToGroup
    endRowGroup (← currentName)
    return .again
  else throw onlyInPieces

/-- Closes what is open inside the row. -/
def clearToRow : Build Unit :=
  popTo (hasName ["tr", "html"])

/-- Closes the row. -/
def endRow : Build Unit := do
  if ← inScope "tr" .table then
    clearToRow
    discard pop
    setPhase .inTableBody
  else throw onlyInPieces

/-- Closes a cell of this name, if it is open. -/
def endCell (name : String) : Build Unit := do
  if ← inScope name .table then
    endImplied (some name)
    popPastName name
    clearFormatting
    setPhase .inRow

/-- Closes the cell that is open, whether it heads a row or not. -/
def closeCell : Build Unit := do
  if ← inScope "td" .table then endCell "td"
  else if ← inScope "th" .table then endCell "th"

/-- Closes a list of choices. -/
def endSelect : Build Unit := do
  if ← inScope "select" .select then
    popPastName "select"
    resetPhase
  else throw onlyInPieces

/-- The elements whose end tags are not handed on to the body from inside a table. -/
def tableEnds : List String :=
  ["body", "caption", "col", "colgroup", "html", "tbody", "td", "tfoot", "th", "thead", "tr"]

/-- What an end tag does in a table. -/
def endInTable (name : String) : Build Verdict := do
  if name == "table" then endTable
  else if !tableEnds.contains name then fostered (endInBody name)
  return .done

/-- What an end tag does in the caption of a table. -/
def endInCaption (name : String) : Build Verdict := do
  if name == "caption" then
    endCaption
    return .done
  else if name == "table" then
    endCaption
    return .again
  else if tableEnds.contains name then return .done
  else endInBody name

/-- What an end tag does in a group of columns. -/
def endInColumnGroup (name : String) : Build Verdict := do
  if name == "col" then return .done
  else
    endColumnGroup
    return if name == "colgroup" then .done else .again

/-- What an end tag does in a group of rows. -/
def endInTableBody (name : String) : Build Verdict := do
  if rowGroups.contains name then
    endRowGroup name
    return .done
  else if name == "table" then leaveRowGroup
  else if tableEnds.contains name then return .done
  else endInTable name

/-- What an end tag does in a row. -/
def endInRow (name : String) : Build Verdict := do
  if name == "tr" then
    endRow
    return .done
  else if name == "table" then
    endRow
    return .again
  else if rowGroups.contains name then
    if ← inScope name .table then
      endRow
      return .again
    else return .done
  else if tableEnds.contains name then return .done
  else endInTable name

/-- What an end tag does in a cell. -/
def endInCell (name : String) : Build Verdict := do
  if name == "td" || name == "th" then
    endCell name
    return .done
  else if ["body", "caption", "col", "colgroup", "html"].contains name then return .done
  else if name == "table" || name == "tr" || rowGroups.contains name then
    if ← inScope name .table then
      closeCell
      return .again
    else return .done
  else endInBody name

/-- What an end tag does in a list of choices. -/
def endInSelect (name : String) : Build Verdict := do
  let s ← get
  if name == "option" then
    if (← currentName) == "option" then discard pop
  else if name == "optgroup" then
    let names := s.stack.filterMap fun i => (s.draft.kind? i).map Kind.name
    match names with
    | "option" :: "optgroup" :: _ =>
      discard pop
      discard pop
    | "optgroup" :: _ => discard pop
    | _ => pure ()
  else if name == "select" then endSelect
  return .done

/-- The elements of tables that end a list of choices in a table. -/
def tableNames : List String :=
  ["caption", "table", "tbody", "tfoot", "thead", "tr", "td", "th"]

/-- What an end tag does in a list of choices in a table. -/
def endInSelectInTable (name : String) : Build Verdict := do
  if tableNames.contains name then
    if ← inScope name .table then
      endSelect
      return .again
    else return .done
  else endInSelect name

/-- What an end tag does in a set of frames. -/
def endInFrameset (name : String) : Build Unit := do
  if name == "frameset" then
    if (← currentName) != "html" then discard pop
    if (← currentName) != "frameset" then setPhase .afterFrameset

/-- What an end tag does in a phase. -/
def endTagIn (phase : Phase) (name : String) : Build Verdict := do
  match phase with
  | .initial =>
    leaveInitial
    return .again
  | .beforeHtml =>
    if pageNames.contains name then
      openHtml
      return .again
    else return .done
  | .beforeHead =>
    if pageNames.contains name then
      openHead { name := "head" }
      return .again
    else return .done
  | .inHead =>
    if name == "head" then
      closeHead
      return .done
    else if pageNames.contains name then
      closeHead
      return .again
    else return .done
  | .inHeadNoscript =>
    if name == "noscript" then
      closeHeadNoscript
      return .done
    else if name == "br" then
      closeHeadNoscript
      return .again
    else return .done
  | .afterHead =>
    if name == "body" || name == "html" || name == "br" then
      openBody
      return .again
    else return .done
  | .inBody => endInBody name
  | .text =>
    discard pop
    modify fun s => { s with phase := s.afterText }
    return .done
  | .inTable => endInTable name
  | .inTableText =>
    flushTableText
    return .again
  | .inCaption => endInCaption name
  | .inColumnGroup => endInColumnGroup name
  | .inTableBody => endInTableBody name
  | .inRow => endInRow name
  | .inCell => endInCell name
  | .inSelect => endInSelect name
  | .inSelectInTable => endInSelectInTable name
  | .afterBody =>
    if name == "html" then
      setPhase .afterAfterBody
      return .done
    else againIn .inBody
  | .inFrameset =>
    endInFrameset name
    return .done
  | .afterFrameset =>
    if name == "html" then setPhase .afterAfterFrameset
    return .done
  | .afterAfterBody => againIn .inBody
  | .afterAfterFrameset => return .done

/-- What an end tag does in the phase that construction is in. -/
def endTag (name : String) : Build Verdict := do
  endTagIn (← get).phase name

end PageAudit.Markup.Browser.Build
