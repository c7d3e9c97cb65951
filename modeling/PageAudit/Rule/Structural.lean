import PageAudit.Rule.Basic

/-!
# Rules on structure

A page has one main heading, its headings go down one level at a time, and it does not style its
elements one by one. Headings are read in document order whatever their nesting, and before the
first of them the level is zero, so a page that opens with any heading but an `h1` skips a level.
-/

namespace PageAudit.Rule

/-- The names of the headings, from the top level down. -/
def headings : List String := ["h1", "h2", "h3", "h4", "h5", "h6"]

/-- The greatest number of elements with a style of their own that is not too many. -/
def inlineStyleLimit : Nat := 10

/-- The number of headings of the top level. -/
def mainHeadings (page : Page) : Nat :=
  (page.queryAll (.named "h1")).length

/-- The issue of a page without a main heading. -/
def mainHeadingMissing : Issue where
  category := .structural
  severity := .error
  title := "Missing H1 Heading"
  description := "No <h1> tag found on the page."
  suggestion := "Add exactly one <h1> tag to describe the main topic of the page."

/-- The issue of a page with several main headings. -/
def mainHeadingsMany (count : Nat) : Issue where
  category := .structural
  severity := .warning
  title := "Multiple H1 Headings"
  description := s!"Found {count} <h1> tags."
  suggestion := "Best practice is to have only one <h1> per page representing the main title."

/-- The page has to have exactly one main heading. -/
def mainHeading : Rule := fun page =>
  match mainHeadings page with
  | 0 => some mainHeadingMissing
  | 1 => none
  | count => some (mainHeadingsMany count)

/-- The level of a heading by its name; zero for any other name. -/
def headingLevel (name : String) : Nat :=
  match headings.idxOf? name with
  | some i => i + 1
  | none => 0

/-- Some level lies more than one below the level before it. -/
def skips (previous : Nat) : List Nat → Bool
  | [] => false
  | level :: levels => previous + 1 < level || skips level levels

/-- The levels of all headings of the page, in document order. -/
def headingLevels (page : Page) : List Nat :=
  (page.queryAll ⟨some headings, []⟩).map (headingLevel ·.name)

/-- The page skips a level somewhere. -/
def hasSkippedLevel (page : Page) : Bool :=
  skips 0 (headingLevels page)

/-- Headings should go down one level at a time. They may go up by any number. -/
def headingOrder : Rule := lacking (!hasSkippedLevel ·) {
  category := .structural
  severity := .warning
  title := "Skipped Heading Levels"
  description := "Heading levels should not be skipped (e.g., going from H2 to H4)."
  suggestion := "Ensure your heading hierarchy is sequential (e.g., H2 → H3)."
}

/-- The number of elements with a style of their own, be it empty. -/
def styledElements (page : Page) : Nat :=
  (page.queryAll ⟨none, [("style", .present)]⟩).length

/-- Elements should not be styled one by one. -/
def inlineStyle : Rule := exceeding inlineStyleLimit styledElements fun count => {
  category := .structural
  severity := .info
  title := "Heavy use of Inline Styles"
  description := s!"Found {count} elements with inline 'style' attributes."
  suggestion :=
    "Move styles to valid CSS classes or an external stylesheet for better maintainability."
}

end PageAudit.Rule
