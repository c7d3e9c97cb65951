import PageAudit.Markup.Browser.Draft

/-!
# The vocabulary of construction

The sets of element names on which the construction of a page depends, and the spellings of foreign
names: markup is read in small letters, while some names of drawings and formulas have capitals.
-/

namespace PageAudit.Markup.Browser

namespace Kind

/-- An element of ordinary markup. -/
def html (name : String) : Kind := ⟨.html, name⟩

/-- Elements of ordinary markup. -/
def htmlOf (names : List String) : List Kind := names.map html

/-- The elements of formulas that hold text. -/
def mathTexts : List Kind := ["mi", "mo", "mn", "ms", "mtext"].map (⟨.math, ·⟩)

/-- The elements of drawings that hold ordinary markup. -/
def svgTexts : List Kind := ["foreignObject", "desc", "title"].map (⟨.svg, ·⟩)

/-- The elements that an end tag does not reach beyond. -/
def scoping : List Kind :=
  htmlOf ["applet", "caption", "html", "marquee", "object", "table", "td", "th"]
    ++ mathTexts ++ [⟨.math, "annotation-xml"⟩] ++ svgTexts

/-- The elements that the end tag of an ordinary element does not reach beyond. -/
def special : List Kind :=
  htmlOf ["address", "applet", "area", "article", "aside", "base", "basefont", "bgsound",
    "blockquote", "body", "br", "button", "caption", "center", "col", "colgroup", "command", "dd",
    "details", "dir", "div", "dl", "dt", "embed", "fieldset", "figure", "footer", "form", "frame",
    "frameset", "h1", "h2", "h3", "h4", "h5", "h6", "head", "header", "hr", "html", "iframe",
    "image", "img", "input", "isindex", "li", "link", "listing", "marquee", "menu", "meta", "nav",
    "noembed", "noframes", "noscript", "object", "ol", "p", "param", "plaintext", "pre", "script",
    "section", "select", "style", "table", "tbody", "td", "textarea", "tfoot", "th", "thead",
    "title", "tr", "ul", "wbr", "xmp"] ++ [⟨.svg, "foreignObject"⟩]

/-- The element is special. -/
def isSpecial (k : Kind) : Bool :=
  special.contains k

end Kind

/-- How far the search for an open element goes. -/
inductive Scope where
  | default
  | button
  | list
  | table
  | select
  deriving DecidableEq, Repr

/-- The search for an open element stops at an element of this kind. -/
def Scope.stopsAt (s : Scope) (k : Kind) : Bool :=
  match s with
  | default => Kind.scoping.contains k
  | button => Kind.scoping.contains k || k == .html "button"
  | list => Kind.scoping.contains k || k == .html "ol" || k == .html "ul"
  | table => k == .html "html" || k == .html "table"
  | select => !(k == .html "optgroup" || k == .html "option")

/-- The headings. -/
def headingNames : List String := ["h1", "h2", "h3", "h4", "h5", "h6"]

/-- The elements whose content is foster-parented out of them. -/
def tableStructure : List String := ["table", "tbody", "tfoot", "thead", "tr"]

/-- The groups of rows in a table. -/
def rowGroups : List String := ["tbody", "tfoot", "thead"]

/-- The elements whose end tags go without saying. -/
def impliedEnds : List String := ["dd", "dt", "li", "option", "optgroup", "p", "rp", "rt"]

/-- The elements that end foreign content wherever they start. -/
def breakouts : List String :=
  ["b", "big", "blockquote", "body", "br", "center", "code", "dd", "div", "dl", "dt", "em",
    "embed", "h1", "h2", "h3", "h4", "h5", "h6", "head", "hr", "i", "img", "li", "listing",
    "menu", "meta", "nobr", "ol", "p", "pre", "ruby", "s", "small", "span", "strong", "strike",
    "sub", "sup", "table", "tt", "u", "ul", "var"]

/-- The spelling of a name among those that have capitals. -/
def spelled (spellings : List String) (name : String) : String :=
  (spellings.find? (·.toLower == name)).getD name

/-- The elements of drawings that have capitals in their names. -/
def svgElements : List String :=
  ["altGlyph", "altGlyphDef", "altGlyphItem", "animateColor", "animateMotion",
    "animateTransform", "clipPath", "feBlend", "feColorMatrix", "feComponentTransfer",
    "feComposite", "feConvolveMatrix", "feDiffuseLighting", "feDisplacementMap",
    "feDistantLight", "feFlood", "feFuncA", "feFuncB", "feFuncG", "feFuncR", "feGaussianBlur",
    "feImage", "feMerge", "feMergeNode", "feMorphology", "feOffset", "fePointLight",
    "feSpecularLighting", "feSpotLight", "feTile", "feTurbulence", "foreignObject", "glyphRef",
    "linearGradient", "radialGradient", "textPath"]

/-- The attributes of drawings that have capitals in their names. -/
def svgAttributes : List String :=
  ["attributeName", "attributeType", "baseFrequency", "baseProfile", "calcMode",
    "clipPathUnits", "contentScriptType", "contentStyleType", "diffuseConstant", "edgeMode",
    "externalResourcesRequired", "filterRes", "filterUnits", "glyphRef", "gradientTransform",
    "gradientUnits", "kernelMatrix", "kernelUnitLength", "keyPoints", "keySplines", "keyTimes",
    "lengthAdjust", "limitingConeAngle", "markerHeight", "markerUnits", "markerWidth",
    "maskContentUnits", "maskUnits", "numOctaves", "pathLength", "patternContentUnits",
    "patternTransform", "patternUnits", "pointsAtX", "pointsAtY", "pointsAtZ", "preserveAlpha",
    "preserveAspectRatio", "primitiveUnits", "refX", "refY", "repeatCount", "repeatDur",
    "requiredExtensions", "requiredFeatures", "specularConstant", "specularExponent",
    "spreadMethod", "startOffset", "stdDeviation", "stitchTiles", "surfaceScale",
    "systemLanguage", "tableValues", "targetX", "targetY", "textLength", "viewBox", "viewTarget",
    "xChannelSelector", "yChannelSelector", "zoomAndPan"]

/-- The attribute of formulas that has capitals in its name. -/
def mathAttributes : List String := ["definitionURL"]

end PageAudit.Markup.Browser
