import PageAudit.Dom.Page
import PageAudit.Report.Issue

/-!
# Rules

A rule looks at a page and finds at most one issue. Most rules count elements and find an issue
when the count passes a limit, which the issue then reports.
-/

namespace PageAudit

/-- A rule cannot fail: what a page lacks is either an issue or no matter. -/
abbrev Rule := Page → Option Issue

namespace Rule

/-- The issue about a count, if the count is over the limit. -/
def exceeding (limit : Nat) (count : Page → Nat) (issue : Nat → Issue) : Rule := fun page =>
  if limit < count page then some (issue (count page)) else none

/-- The issue about something that the page lacks. -/
def lacking (has : Page → Bool) (issue : Issue) : Rule := fun page =>
  if has page then none else some issue

end Rule

end PageAudit
