import PageAudit.Report.Issue

/-!
# Reports

A report is the outcome of one audit: where the page came from, the issues in the order in which
they were found, and notes on how the page was read. Grouping by category keeps that order within
each category.
-/

namespace PageAudit

/-- The outcome of an audit. -/
structure Report where
  source : Option String := none
  issues : List Issue := []
  warnings : List String := []
  deriving DecidableEq, Repr

namespace Report

/-- The report has something to say. -/
def hasIssues (r : Report) : Bool :=
  !r.issues.isEmpty

/-- The issues of a category, in the order in which they were found. -/
def ofCategory (r : Report) (c : Category) : List Issue :=
  r.issues.filter (·.category = c)

/-- The issues of each category that has any, in the order of the categories. -/
def byCategory (r : Report) : List (Category × List Issue) :=
  (Category.all.map fun c => (c, r.ofCategory c)).filter (!·.2.isEmpty)

/-- The number of issues of a severity. -/
def count (r : Report) (s : Severity) : Nat :=
  r.issues.countP (·.severity = s)

/-- The most serious of two severities. -/
def moreSerious (s t : Severity) : Severity :=
  if t.rank < s.rank then t else s

/-- The most serious of severities, if there are any. -/
def highestOf : List Severity → Option Severity
  | [] => none
  | s :: ss => some (ss.foldl moreSerious s)

/-- The most serious severity in the report, if it has any issue. -/
def highestSeverity (r : Report) : Option Severity :=
  highestOf (r.issues.map (·.severity))

end Report

end PageAudit
