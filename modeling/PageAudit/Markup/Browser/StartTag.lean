import PageAudit.Markup.Browser.EndTag

/-!
# Start tags

What a start tag does in each phase.
-/

namespace PageAudit.Markup.Browser.Build

/-- The elements of a head that have no content. -/
def voidInHead : List String := ["base", "basefont", "bgsound", "command", "link", "meta"]

/-- What a start tag does in the head. -/
def startInHead (tag : Tag) : Build Verdict := do
  if tag.name == "html" then mergeHtml tag
  else if voidInHead.contains tag.name then
    insertVoid tag
    return .done
  else if tag.name == "title" then
    insertWithMode tag (.title tag.name.toList)
    return .done
  else if tag.name == "noframes" || tag.name == "style" then
    insertRaw tag
    return .done
  else if tag.name == "noscript" then
    insert tag
    setPhase .inHeadNoscript
    return .done
  else if tag.name == "script" then
    insertWithMode tag (.script tag.name.toList)
    return .done
  else if tag.name == "head" then return .done
  else
    closeHead
    return .again

/-- What a start tag does in the part of the head for those who run no scripts. -/
def startInHeadNoscript (tag : Tag) : Build Verdict := do
  if tag.name == "html" then mergeHtml tag
  else if ["basefont", "bgsound", "link", "meta", "noframes", "style"].contains tag.name then
    startInHead tag
  else if tag.name == "head" || tag.name == "noscript" then return .done
  else
    closeHeadNoscript
    return .again

/-- What belongs into the head goes there even after the head has been closed. -/
def startAfterHead (tag : Tag) : Build Verdict := do
  if tag.name == "html" then mergeHtml tag
  else if tag.name == "body" then
    forbidFrames
    insert tag
    setPhase .inBody
    return .done
  else if tag.name == "frameset" then
    insert tag
    setPhase .inFrameset
    return .done
  else if ["base", "basefont", "bgsound", "link", "meta", "noframes", "script", "style",
      "title"].contains tag.name then
    match (← get).head with
    | some head => push head
    | none => pure ()
    discard (startInHead tag)
    let s ← get
    match s.stack.find? (hasName ["head"] s.draft) with
    | some i => removeOpen i
    | none => pure ()
    return .done
  else if tag.name == "head" then return .done
  else
    openBody
    return .again

/-- The blocks that close an open paragraph. -/
def blockStarts : List String :=
  ["address", "article", "aside", "blockquote", "center", "details", "dir", "div", "dl",
    "fieldset", "figcaption", "figure", "footer", "header", "hgroup", "main", "menu", "nav",
    "ol", "p", "section", "summary", "ul"]

/-- A second body tag adds to the attributes of the first. -/
def startBody (tag : Tag) : Build Unit := do
  match ← second? with
  | none => throw onlyInPieces
  | some i =>
    if (← nameOf i) != "body" then throw onlyInPieces
    forbidFrames
    addAttributes i tag

/-- A set of frames may take the place of a body in which nothing has come up yet. -/
def startFrameset (tag : Tag) : Build Unit := do
  match ← second? with
  | none => throw onlyInPieces
  | some i =>
    if (← nameOf i) != "body" then throw onlyInPieces
    if (← get).framesAllowed then
      modifyDraft (·.detach i)
      popTo (hasName ["html"])
      insert tag
      setPhase .inFrameset

/-- Opens a form, unless one is open. -/
def startForm (tag : Tag) : Build Unit := do
  if (← get).form.isNone then
    closeParagraph
    insert tag
    let i ← current
    modify fun s => { s with form := some i }

/-- The open list item that a new one ends, if no other special element is nearer. -/
def openItem? (d : Draft) (names : List String) : List Nat → Option String
  | [] => none
  | i :: stack =>
    let k := (d.kind? i).getD (.html "")
    if names.contains k.name then some k.name
    else if k.isSpecial && !(["address", "div", "p"].contains k.name) then none
    else openItem? d names stack

/-- Opens an item of a list. It ends the item before. -/
def startListItem (tag : Tag) : Build Unit := do
  forbidFrames
  let s ← get
  match openItem? s.draft (if tag.name == "li" then ["li"] else ["dt", "dd"]) s.stack with
  | some name => discard (endTag name)
  | none => pure ()
  if ← inScope "p" .button then discard (endTag "p")
  insert tag

/-- Opens a heading. It ends a heading that is open right here. -/
def startHeading (tag : Tag) : Build Unit := do
  closeParagraph
  if headingNames.contains (← currentName) then discard pop
  insert tag

/-- Opens a link. It ends the link before, if that is still open. -/
def startLink (tag : Tag) : Build Unit := do
  match ← lastFormatting? "a" with
  | some i => do
    adopt "a"
    removeOpen i
    forgetFormatting i
  | none => pure ()
  reconstruct
  insertFormatting tag

/-- Opens an element without line breaks. It ends another that is still open. -/
def startUnbroken (tag : Tag) : Build Unit := do
  reconstruct
  if ← inScope "nobr" then
    adopt "nobr"
    reconstruct
  insertFormatting tag

/-- Inserts an element without content among text. -/
def startVoid (tag : Tag) : Build Unit := do
  reconstruct
  insertVoid tag
  forbidFrames

/-- An input that is not shown. -/
def isHidden (tag : Tag) : Bool :=
  (tag.attributes.lookup "type").any (·.toLower == "hidden")

/-- Inserts an input. One that is not shown does not forbid frames. -/
def startInput (tag : Tag) : Build Unit := do
  let allowed := (← get).framesAllowed
  startVoid tag
  if isHidden tag then modify fun s => { s with framesAllowed := allowed }

/-- Inserts a line across the page. -/
def startRule (tag : Tag) : Build Unit := do
  closeParagraph
  insertVoid tag
  forbidFrames

/-- What a search field asks for unless it says so itself. -/
def searchPrompt : String := "This is a searchable index. Enter search keywords: "

/-- A search field stands for a form with a labelled input. -/
def startSearch (tag : Tag) : Build Unit := do
  if (← get).form.isNone then
    let given (name : String) := tag.attributes.lookup name
    startForm ⟨"form", match given "action" with | some v => [("action", v)] | none => [], false⟩
    startRule { name := "hr" }
    reconstruct
    insertNamed "label"
    textInBody ((given "prompt").getD searchPrompt).toList
    let kept := tag.attributes.filter fun a => !(["action", "prompt", "name"].contains a.1)
    startInput ⟨"input", kept ++ [("name", "isindex")], tag.selfClosing⟩
    endOther "label"
    startRule { name := "hr" }
    endForm

/-- Opens an area for text. -/
def startTextArea (tag : Tag) : Build Unit := do
  insert tag
  modify fun s =>
    { s with mode := .title tag.name.toList, dropsLineFeed := true, framesAllowed := false }

/-- Opens a list of choices. -/
def startSelect (tag : Tag) : Build Unit := do
  reconstruct
  insert tag
  forbidFrames
  let inTable := [Phase.inTable, .inCaption, .inColumnGroup, .inTableBody, .inRow, .inCell]
  setPhase (if inTable.contains (← get).phase then .inSelectInTable else .inSelect)

/-- The tag with those of its attributes respelled that have capitals. -/
def respell (names : List String) (tag : Tag) : Tag :=
  { tag with attributes := tag.attributes.map fun (n, v) => (spelled names n, v) }

/-- Opens an element of a drawing or formula, unless its tag closes itself. -/
def insertForeign (space : Namespace) (tag : Tag) : Build Unit := do
  insertIn space <| match space with
    | .html => tag
    | .svg => respell svgAttributes tag
    | .math => respell mathAttributes tag
  if tag.selfClosing then discard pop

/-- What a start tag does in the body. -/
def startInBody (tag : Tag) : Build Verdict := do
  let name := tag.name
  if name == "html" then mergeHtml tag
  else if voidInHead.contains name || ["script", "style", "title"].contains name then
    startInHead tag
  else if name == "button" then
    if ← inScope "button" then
      endBlock "button"
      return .again
    else
      reconstruct
      insert tag
      forbidFrames
      return .done
  else
    if name == "body" then startBody tag
    else if name == "frameset" then startFrameset tag
    else if blockStarts.contains name then
      closeParagraph
      insert tag
    else if headingNames.contains name then startHeading tag
    else if name == "pre" || name == "listing" then
      closeParagraph
      insert tag
      modify fun s => { s with framesAllowed := false, dropsLineFeed := true }
    else if name == "form" then startForm tag
    else if ["li", "dd", "dt"].contains name then startListItem tag
    else if name == "plaintext" then
      closeParagraph
      insert tag
      modify fun s => { s with mode := .plain }
    else if name == "a" then startLink tag
    else if name == "nobr" then startUnbroken tag
    else if formattingNames.contains name then
      reconstruct
      insertFormatting tag
    else if objectNames.contains name then
      reconstruct
      insert tag
      markFormatting
      forbidFrames
    else if name == "xmp" then
      closeParagraph
      reconstruct
      forbidFrames
      insertRaw tag
    else if name == "table" then
      if !(← get).oldLayout then closeParagraph
      insert tag
      forbidFrames
      setPhase .inTable
    else if ["area", "br", "embed", "img", "keygen", "wbr"].contains name then startVoid tag
    else if ["param", "source", "track"].contains name then insertVoid tag
    else if name == "input" then startInput tag
    else if name == "hr" then startRule tag
    else if name == "image" then startVoid { tag with name := "img" }
    else if name == "isindex" then startSearch tag
    else if name == "textarea" then startTextArea tag
    else if name == "iframe" then
      forbidFrames
      insertRaw tag
    else if name == "noembed" || name == "noframes" then insertRaw tag
    else if name == "select" then startSelect tag
    else if name == "rp" || name == "rt" then
      if ← inScope "ruby" then endImplied
      insert tag
    else if name == "option" || name == "optgroup" then
      if (← currentName) == "option" then discard (endTag "option")
      reconstruct
      insert tag
    else if name == "math" then
      reconstruct
      insertForeign .math tag
    else if name == "svg" then
      reconstruct
      insertForeign .svg tag
    else if !(["caption", "col", "colgroup", "frame", "head", "tbody", "td", "tfoot", "th",
        "thead", "tr"].contains name) then
      reconstruct
      insert tag
    return .done

/-- Closes what is open inside the table. -/
def clearToTable : Build Unit :=
  popTo (hasName ["table", "html"])

/-- Opens a group of columns. -/
def startColumnGroup (tag : Tag) : Build Unit := do
  clearToTable
  insert tag
  setPhase .inColumnGroup

/-- Opens a group of rows. -/
def startRowGroup (tag : Tag) : Build Unit := do
  clearToTable
  insert tag
  setPhase .inTableBody

/-- What a start tag does in a table. -/
def startInTable (tag : Tag) : Build Verdict := do
  let name := tag.name
  if name == "html" then mergeHtml tag
  else if name == "caption" then
    clearToTable
    markFormatting
    insert tag
    setPhase .inCaption
    return .done
  else if name == "colgroup" then
    startColumnGroup tag
    return .done
  else if name == "col" then
    startColumnGroup { name := "colgroup" }
    return .again
  else if rowGroups.contains name then
    startRowGroup tag
    return .done
  else if ["td", "th", "tr"].contains name then
    startRowGroup { name := "tbody" }
    return .again
  else if name == "table" then
    discard (endTag "table")
    return .again
  else if name == "style" || name == "script" then startInHead tag
  else if name == "input" && isHidden tag then
    insertVoid tag
    return .done
  else if name == "form" then
    if (← get).form.isNone then
      insert tag
      let i ← current
      modify fun s => { s with form := some i }
      discard pop
    return .done
  else
    fostered (startInBody tag)
    return .done

/-- The elements of tables that end a cell or a caption. -/
def cellBreakers : List String :=
  ["caption", "col", "colgroup", "tbody", "td", "tfoot", "th", "thead", "tr"]

/-- What a start tag does in the caption of a table. -/
def startInCaption (tag : Tag) : Build Verdict := do
  if cellBreakers.contains tag.name then
    discard (endTag "caption")
    return .again
  else startInBody tag

/-- What a start tag does in a group of columns. -/
def startInColumnGroup (tag : Tag) : Build Verdict := do
  if tag.name == "html" then mergeHtml tag
  else if tag.name == "col" then
    insertVoid tag
    return .done
  else
    endColumnGroup
    return .again

/-- Opens a row. -/
def startRow (tag : Tag) : Build Unit := do
  clearToGroup
  insert tag
  setPhase .inRow

/-- What a start tag does in a group of rows. -/
def startInTableBody (tag : Tag) : Build Verdict := do
  let name := tag.name
  if name == "html" then mergeHtml tag
  else if name == "tr" then
    startRow tag
    return .done
  else if name == "td" || name == "th" then
    startRow { name := "tr" }
    return .again
  else if ["caption", "col", "colgroup"].contains name || rowGroups.contains name then
    leaveRowGroup
  else startInTable tag

/-- What a start tag does in a row. -/
def startInRow (tag : Tag) : Build Verdict := do
  let name := tag.name
  if name == "html" then mergeHtml tag
  else if name == "td" || name == "th" then
    clearToRow
    insert tag
    setPhase .inCell
    markFormatting
    return .done
  else if cellBreakers.contains name then
    endRow
    return .again
  else startInTable tag

/-- What a start tag does in a cell. -/
def startInCell (tag : Tag) : Build Verdict := do
  if cellBreakers.contains tag.name then
    if ← anyInScope ["td", "th"] .table then
      closeCell
      return .again
    else throw onlyInPieces
  else startInBody tag

/-- What a start tag does in a list of choices. -/
def startInSelect (tag : Tag) : Build Verdict := do
  let name := tag.name
  if name == "html" then mergeHtml tag
  else if name == "option" then
    if (← currentName) == "option" then discard pop
    insert tag
    return .done
  else if name == "optgroup" then
    if (← currentName) == "option" then discard pop
    if (← currentName) == "optgroup" then discard pop
    insert tag
    return .done
  else if name == "select" then
    endSelect
    return .done
  else if ["input", "keygen", "textarea"].contains name then
    if ← inScope "select" .select then
      endSelect
      return .again
    else throw onlyInPieces
  else if name == "script" then startInHead tag
  else return .done

/-- What a start tag does in a list of choices in a table. -/
def startInSelectInTable (tag : Tag) : Build Verdict := do
  if tableNames.contains tag.name then
    endSelect
    return .again
  else startInSelect tag

/-- What a start tag does in a set of frames. -/
def startInFrameset (tag : Tag) : Build Verdict := do
  if tag.name == "html" then mergeHtml tag
  else if tag.name == "frameset" then
    insert tag
    return .done
  else if tag.name == "frame" then
    insertVoid tag
    return .done
  else if tag.name == "noframes" then startInBody tag
  else return .done

/-- What a start tag does behind a set of frames. -/
def startAfterFrameset (tag : Tag) : Build Verdict := do
  if tag.name == "html" then mergeHtml tag
  else if tag.name == "noframes" then startInHead tag
  else return .done

/-- What a start tag does in the phase that construction is in. -/
def startTag (tag : Tag) : Build Verdict := do
  match (← get).phase with
  | .initial =>
    leaveInitial
    return .again
  | .beforeHtml =>
    openHtml
    return .again
  | .beforeHead =>
    if tag.name == "html" then mergeHtml tag
    else if tag.name == "head" then
      openHead tag
      return .done
    else
      openHead { name := "head" }
      return .again
  | .inHead => startInHead tag
  | .inHeadNoscript => startInHeadNoscript tag
  | .afterHead => startAfterHead tag
  | .inBody => startInBody tag
  | .text => throw onlyInPieces
  | .inTable => startInTable tag
  | .inTableText =>
    flushTableText
    return .again
  | .inCaption => startInCaption tag
  | .inColumnGroup => startInColumnGroup tag
  | .inTableBody => startInTableBody tag
  | .inRow => startInRow tag
  | .inCell => startInCell tag
  | .inSelect => startInSelect tag
  | .inSelectInTable => startInSelectInTable tag
  | .afterBody => if tag.name == "html" then mergeHtml tag else againIn .inBody
  | .inFrameset => startInFrameset tag
  | .afterFrameset => startAfterFrameset tag
  | .afterAfterBody => if tag.name == "html" then mergeHtml tag else againIn .inBody
  | .afterAfterFrameset => startAfterFrameset tag

end PageAudit.Markup.Browser.Build
