/-!
# Issues

An issue is one finding about a page as a whole: it may say how many elements broke a rule, never
which. Issues come in four categories, which have a fixed order, and three severities, which are
ranked from the most serious down.
-/

namespace PageAudit

/-- What an issue is about. -/
inductive Category where
  | seo
  | accessibility
  | structural
  | performance
  deriving DecidableEq, Repr

/-- How serious an issue is. -/
inductive Severity where
  | error
  | warning
  | info
  deriving DecidableEq, Repr

/-- A finding, with what to do about it. -/
structure Issue where
  category : Category
  severity : Severity
  title : String
  description : String
  suggestion : String
  deriving DecidableEq, Repr

namespace Category

/-- Every category once, in the order of evaluation and of presentation. -/
def all : List Category := [seo, accessibility, structural, performance]

/-- The name of a category in reports. -/
def label : Category → String
  | seo => "SEO"
  | accessibility => "Accessibility"
  | structural => "Structure"
  | performance => "Performance"

/-- The category of a name. -/
def ofLabel? (s : String) : Option Category :=
  all.find? (·.label = s)

end Category

namespace Severity

/-- Every severity once, the most serious first. -/
def all : List Severity := [error, warning, info]

/-- The name of a severity in reports. -/
def label : Severity → String
  | error => "error"
  | warning => "warning"
  | info => "info"

/-- The severity of a name. -/
def ofLabel? (s : String) : Option Severity :=
  all.find? (·.label = s)

/-- Zero is the most serious. -/
def rank : Severity → Nat
  | error => 0
  | warning => 1
  | info => 2

end Severity

end PageAudit
