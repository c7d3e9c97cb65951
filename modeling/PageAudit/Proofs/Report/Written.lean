import PageAudit.Proofs.Json.Grammar
import PageAudit.Proofs.Report.Json
import PageAudit.Report.Rendering

/-!
# Written reports read back

A report for programs is JSON by the grammar, and from it the report is read back as it was
(`Report.json_readsBack`): nothing of a text is lost, whatever characters it holds, and an empty
source is not taken for none.
-/

namespace PageAudit.Report

/-- A report of filled issues is written as JSON, and what is read there is valid and is the same
report. -/
theorem json_readsBack {r : Report} (h : ∀ i ∈ r.issues, i.IsFilled) :
    Json.IsText r.json.toList ∧ ∃ j, Json.parse? r.json = some j ∧ ofJson j = .ok r := by
  constructor
  · rw [json, Json.pretty, String.toList_ofList]
    exact Json.isText_write r.toJson 0
  · have hparse : Json.parse? (r.toJson.pretty .minimal ++ "") = some r.toJson :=
      Json.parse?_pretty .minimal r.isPlain_toJson (by simp)
    rw [String.append_empty] at hparse
    exact ⟨r.toJson, hparse, ofJson_toJson h⟩

/-- A report from an empty source, with issues against the order of the categories and with quotes,
backslashes and control characters in its texts. -/
def awkward : Report where
  source := some ""
  issues := [⟨.performance, .info, "a \"b\" \\ c", "\x00\x1f\x7f\n", "→ é 😀"⟩,
    ⟨.seo, .error, "\t", "d", "/"⟩]
  warnings := ["", "\u2028 \x08\x0c"]

theorem awkward_readsBack :
    Json.IsText awkward.json.toList
      ∧ ∃ j, Json.parse? awkward.json = some j ∧ ofJson j = .ok awkward :=
  json_readsBack (by simp [awkward, Issue.IsFilled])

end PageAudit.Report
