import PageAudit.Rule.Basic
import PageAudit.Text.Case
import PageAudit.Text.Trim

/-!
# Rules on accessibility

Every image needs an `alt` attribute, be it empty; no link may have a text that says nothing about
where it leads; and the page should have a landmark.
-/

namespace PageAudit.Rule

/-- Texts that say nothing about where a link leads. -/
def genericLinkTexts : List String := ["click here", "read more", "more", "link", "here"]

/-- The names of the elements that are landmarks. -/
def landmarks : List String := ["main", "nav", "header", "footer", "aside"]

/-- The number of images without the attribute. An empty one is enough. -/
def imagesWithoutAlt (page : Page) : Nat :=
  (page.queryAll (.named "img")).countP (!·.hasAttribute "alt")

/-- Images have to be described. -/
def alternativeText : Rule := exceeding 0 imagesWithoutAlt fun count => {
  category := .accessibility
  severity := .error
  title := "Images missing Alt text"
  description := s!"Found {count} <img> tag(s) without an alt attribute."
  suggestion := "Add descriptive alt attributes to all images for screen readers."
}

/-- The text is generic if nothing but a generic phrase is left of it, in whatever case. -/
def isGeneric (text : String) : Bool :=
  genericLinkTexts.contains (Text.lower (Text.trim text))

/-- The number of links with a generic text. -/
def genericLinks (page : Page) : Nat :=
  (page.queryAll (.named "a")).countP (isGeneric ·.text)

/-- Links have to say where they lead. -/
def linkText : Rule := exceeding 0 genericLinks fun count => {
  category := .accessibility
  severity := .warning
  title := "Non-descriptive Link Text"
  description := s!"Found {count} link(s) satisfying generic text like \"click here\"."
  suggestion := "Use descriptive text for links that explains their destination "
    ++ "(e.g., \"Read more about pricing\")."
}

/-- Some landmark is on the page. -/
def hasLandmark (page : Page) : Bool :=
  landmarks.any fun name => page.exists? (.named name)

/-- The page should have a landmark, of whatever kind. -/
def landmark : Rule := lacking hasLandmark {
  category := .accessibility
  severity := .info
  title := "No Semantic Landmarks Found"
  description := "Document does not use <main>, <nav>, <header>, or <footer>."
  suggestion :=
    "Use semantic HTML5 landmark elements to improve navigation for screen readers."
}

end PageAudit.Rule
