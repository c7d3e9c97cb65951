import PageAudit.Rule.Basic

/-!
# Rules on performance

A page should not load too many images or carry long scripts of its own, and the scripts that its
head section loads should not hold up rendering. The length of a script is that of its text as
written, blanks included.
-/

namespace PageAudit.Rule

/-- The greatest number of images that is not too many. -/
def imageLimit : Nat := 30

/-- The greatest length of a script that is not too long to stand in the page. -/
def inlineScriptLimit : Nat := 2000

/-- The number of images. -/
def images (page : Page) : Nat :=
  (page.queryAll (.named "img")).length

/-- There should not be too many images. -/
def imageCount : Rule := exceeding imageLimit images fun count => {
  category := .performance
  severity := .warning
  title := "High Image Count"
  description := s!"Page contains {count} images."
  suggestion := "Lazy load images and consider if all are necessary for the initial view."
}

/-- The script stands in the page and is too long for that. -/
def isLargeInline (script : Element) : Bool :=
  !script.hasAttribute "src" && inlineScriptLimit < script.text.length

/-- The number of scripts that are too long to stand in the page. -/
def largeInlineScripts (page : Page) : Nat :=
  (page.queryAll (.named "script")).countP isLargeInline

/-- Long scripts should be files of their own. -/
def inlineScript : Rule := exceeding 0 largeInlineScripts fun count => {
  category := .performance
  severity := .info
  title := "Large Inline Scripts"
  description := s!"Found {count} large inline script block(s)."
  suggestion :=
    "Move large JavaScript logic to external .js files to take advantage of browser caching."
}

/-- The script says nothing about waiting for it. -/
def isBlocking (script : Element) : Bool :=
  !script.hasAttribute "async" && !script.hasAttribute "defer"

/-- The number of scripts that the first head section loads and that hold up rendering. Without a
head section there is none. -/
def blockingScripts (page : Page) : Nat :=
  match page.head? with
  | none => 0
  | some head =>
    (page.queryAll (.named "script" [("src", .present)]) head).countP isBlocking

/-- Scripts should not hold up rendering. -/
def blockingScript : Rule := exceeding 0 blockingScripts fun count => {
  category := .performance
  severity := .warning
  title := "Render-blocking Scripts"
  description := s!"Found {count} script(s) in <head> that are not async or defer."
  suggestion :=
    "Add \"defer\" or \"async\" attributes to scripts in the <head> to prevent blocking page render."
}

end PageAudit.Rule
