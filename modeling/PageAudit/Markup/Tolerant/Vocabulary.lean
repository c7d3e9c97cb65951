import PageAudit.Markup.Token.Lexer

/-!
# What the tolerant reader knows of elements

The tags that end an open element, the strength that an end tag needs to reach past an open element,
the elements without content, and how the content of the others is read.
-/

namespace PageAudit.Markup.Tolerant

/-- The headings. -/
def headingNames : List String := ["h1", "h2", "h3", "h4", "h5", "h6"]

/-- The elements in a page that have nothing to do in its head: the start tag of one ends it. -/
def bodyNames : List String :=
  ["a", "abbr", "acronym", "address", "b", "bdo", "big", "blockquote", "body", "br", "center",
    "cite", "code", "dd", "dfn", "dir", "div", "dl", "dt", "em", "fieldset", "font", "form",
    "frameset", "h1", "h2", "h3", "h4", "h5", "h6", "hr", "i", "iframe", "img", "kbd", "li",
    "listing", "map", "menu", "ol", "p", "pre", "q", "s", "samp", "small", "span", "strike",
    "strong", "sub", "sup", "table", "tt", "u", "ul", "var", "xmp"]

/-- The elements other than `head` that a start tag ends, should one of them be innermost. -/
def endedBy (tag : String) : List String :=
  match tag with
  | "a" => ["a"]
  | "head" | "title" | "hr" | "h1" | "h2" | "h3" | "h4" | "h5" | "h6" | "dir" | "listing" | "xmp"
  | "blockquote" | "div" | "caption" | "multicol" => ["p"]
  | "address" | "pre" | "ol" | "menu" => ["p", "ul"]
  | "body" | "frameset" => ["p", "style", "link", "title"]
  | "form" =>
    ["form", "p", "hr", "dl", "ul", "ol", "menu", "dir", "address", "pre", "listing", "xmp"]
      ++ headingNames
  | "li" => ["li", "p", "dl", "address", "pre", "listing", "xmp"] ++ headingNames
  | "dl" => ["p", "dt", "menu", "dir", "address", "pre", "listing", "xmp"]
  | "dt" => ["p", "dd", "menu", "dir", "address", "pre", "listing", "xmp"]
  | "dd" => ["p", "dt", "menu", "dir", "address", "pre", "listing", "xmp"]
  | "ul" => ["p", "ol", "menu", "dir", "address", "pre", "listing", "xmp"]
  | "p" => ["p", "tt", "i", "b", "u", "s", "strike", "big", "small"] ++ headingNames
  | "noscript" => ["script"]
  | "center" => ["font", "b", "i", "p"]
  | "colgroup" => ["caption", "colgroup", "col", "p"]
  | "col" => ["caption", "col", "p"]
  | "table" => ["p", "pre", "listing", "xmp", "a"] ++ headingNames
  | "th" | "td" => ["th", "td", "p", "span", "font", "a", "b", "u"]
  | "tr" => ["th", "td", "tr", "caption", "col", "colgroup", "p"]
  | "thead" => ["caption", "col", "colgroup"]
  | "tfoot" | "tbody" =>
    ["th", "td", "tr", "caption", "col", "colgroup", "thead", "tfoot", "tbody", "p"]
  | "optgroup" | "option" => ["option"]
  | "fieldset" => ["legend", "p", "pre", "listing", "xmp", "a"] ++ headingNames
  | _ => []

/-- The start tag ends the element. -/
def ends (tag element : String) : Bool :=
  if element == "head" then bodyNames.contains tag else (endedBy tag).contains element

/-- An end tag reaches past open elements that are no stronger than its own. -/
def strength (element : String) : Nat :=
  match element with
  | "div" => 150
  | "td" | "th" => 160
  | "tr" => 170
  | "thead" | "tbody" | "tfoot" => 180
  | "table" => 190
  | "head" | "body" => 200
  | "html" => 220
  | _ => 100

/-- The elements without content. -/
def voidNames : List String :=
  ["area", "base", "basefont", "bgsound", "br", "col", "embed", "frame", "hr", "img", "input",
    "isindex", "keygen", "link", "meta", "param", "source", "track", "wbr"]

/-- The elements that belong into the head if they come first. -/
def headNames : List String := ["script", "style", "meta", "link", "title", "base"]

/-- The elements that do without a body around them. -/
def frameNames : List String := ["noframes", "frame", "frameset"]

/-- How the content of an element is read. -/
def contentMode (element : String) : Mode :=
  match element with
  | "title" | "textarea" => .title element.toList
  | "iframe" | "noembed" | "noframes" | "style" | "xmp" => .raw element.toList
  | "script" => .script element.toList
  | "plaintext" => .plain
  | _ => .data

end PageAudit.Markup.Tolerant
