import PageAudit.Document
import PageAudit.Rule.Accessibility
import PageAudit.Rule.Performance
import PageAudit.Rule.Seo
import PageAudit.Rule.Structural

/-!
# Evaluating a page

The rules of a category run in a fixed order, and so do the categories. No rule sees what another
has found. Markup is read first (`evaluateMarkup`).
-/

namespace PageAudit

open Rule in
/-- The rules of a category, in order. -/
def Category.rules : Category → List Rule
  | seo => [title, description, viewport]
  | accessibility => [alternativeText, linkText, landmark]
  | structural => [mainHeading, headingOrder, inlineStyle]
  | performance => [imageCount, inlineScript, blockingScript]

/-- The issues that the rules of one category find on a page. -/
def Page.check (page : Page) (c : Category) : List Issue :=
  c.rules.filterMap (· page)

/-- The issues of all categories, one category after the other. -/
def Page.evaluate (page : Page) : List Issue :=
  Category.all.flatMap page.check

/-- One record for each category, with the number of issues found. -/
def Page.evaluationLog (page : Page) : List Log.Record :=
  Category.all.map fun c =>
    ⟨Log.Level.debug, Log.partLogger "engine", s!"{c.label}: {(page.check c).length} issue(s)"⟩

/-- Reads markup and evaluates the page. -/
def evaluateMarkup (readers : Readers) (markup : Source) (asked : Option String := none) :
    Document.Logged (Except Document.Error (List Issue)) :=
  let read := Document.read readers markup asked
  match read.result with
  | .error e => ⟨.error e, read.log⟩
  | .ok d => ⟨.ok d.page.evaluate, read.log ++ d.page.evaluationLog⟩

end PageAudit
