import PageAudit.Rule.Basic
import PageAudit.Text.Trim

/-!
# Rules on search engines

The first title of the page decides alone: it must be there, and its text, trimmed, must have
between `titleMin` and `titleMax` characters. The page must carry a description and a viewport.
-/

namespace PageAudit.Rule

/-- The least length of a title that is not too short. -/
def titleMin : Nat := 10

/-- The greatest length of a title that is not too long. -/
def titleMax : Nat := 70

/-- The issue of a page without a title. -/
def titleMissing : Issue where
  category := .seo
  severity := .error
  title := "Missing <title> tag"
  description := "The document does not have a <title> element."
  suggestion := "Add a <title> element to the <head> section."

/-- The issue of a title that is too short. -/
def titleTooShort (length : Nat) : Issue where
  category := .seo
  severity := .warning
  title := "Title too short"
  description := s!"Title is only {length} characters long."
  suggestion := "Expand your title to be descriptive (aim for 30-60 characters)."

/-- The issue of a title that is too long. -/
def titleTooLong (length : Nat) : Issue where
  category := .seo
  severity := .warning
  title := "Title too long"
  description := s!"Title is {length} characters long."
  suggestion :=
    "Shorten your title to ensure it displays fully in search results (max ~60-70 chars)."

/-- The length of a title without what surrounds it. -/
def titleLength (title : Element) : Nat :=
  (Text.trim title.text).length

/-- The issue about the length of a title, if there is one. -/
def titleIssue? (length : Nat) : Option Issue :=
  if length < titleMin then some (titleTooShort length)
  else if titleMax < length then some (titleTooLong length)
  else none

/-- The page has to have a title that is neither short nor long. -/
def title : Rule := fun page =>
  match page.first? (.named "title") with
  | none => some titleMissing
  | some e => titleIssue? (titleLength e)

/-- The page has a `meta` element of exactly this name. -/
def hasMeta (name : String) (page : Page) : Bool :=
  page.exists? (.named "meta" [("name", .equals name)])

/-- The page has to have a description. -/
def description : Rule := lacking (hasMeta "description") {
  category := .seo
  severity := .error
  title := "Missing Meta Description"
  description := "No <meta name=\"description\"> tag found."
  suggestion := "Add a meta description to summarize your page for search engines."
}

/-- The page has to have a viewport. -/
def viewport : Rule := lacking (hasMeta "viewport") {
  category := .seo
  severity := .error
  title := "Missing Viewport Meta Tag"
  description := "No <meta name=\"viewport\"> tag found."
  suggestion := "Add <meta name=\"viewport\" content=\"width=device-width, initial-scale=1.0\"> "
    ++ "for mobile responsiveness."
}

end PageAudit.Rule
