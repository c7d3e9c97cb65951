import PageAudit.Report.Issue

/-!
# The library from outside

What is told of the library to those who use it: its version, and the names that it exports. Each
category of issues has its rules under a name of its own, and all of these are exported
(`Library.checkName_mem_exports`).
-/

namespace PageAudit.Library

/-- The version of the library. -/
def version : String := "0.1.0"

/-- The names under which the library can be used, those of reading and of the rules first. -/
def exports : List String := [
  "Document", "evaluate", "evaluate_html", "CHECK_GROUPS",
  "check_seo", "check_accessibility", "check_structure", "check_performance",
  "StaticOptimizer", "audit_html", "audit_html_file",
  "Issue", "Category", "Severity", "AuditReport", "StepStatus", "CATEGORY_ORDER",
  "render_text", "render_json",
  "OptimizerError", "ParseError", "ConfigError"
]

/-- The name of what looks for the issues of a category. -/
def checkName : Category → String
  | .seo => "check_seo"
  | .accessibility => "check_accessibility"
  | .structural => "check_structure"
  | .performance => "check_performance"

theorem checkName_mem_exports (c : Category) : checkName c ∈ exports := by
  cases c <;> decide

end PageAudit.Library
