import PageAudit.Evaluation
import PageAudit.Proofs.Report.Json

/-!
# What the rules find is filled

Most rules find an issue about a count or about something missing, and all that can be said of that
issue is said of what they find (`Rule.finds_exceeding`, `Rule.finds_lacking`). Every issue that a
rule can find has a title, a description and a suggestion, whatever count it reports
(`Page.isFilled_of_mem_evaluate`).
-/

namespace PageAudit

namespace Rule

/-- Whatever issue the rule finds has the property. -/
def Finds (P : Issue → Prop) (r : Rule) : Prop :=
  ∀ ⦃p : Page⦄ ⦃i : Issue⦄, r p = some i → P i

variable {P : Issue → Prop}

theorem finds_exceeding {limit : Nat} {count : Page → Nat} {issue : Nat → Issue}
    (h : ∀ n, P (issue n)) : Finds P (exceeding limit count issue) := by
  intro p i hi
  simp only [exceeding] at hi
  split at hi
  · cases hi
    exact h _
  · cases hi

theorem finds_lacking {has : Page → Bool} {issue : Issue} (h : P issue) :
    Finds P (lacking has issue) := by
  intro p i hi
  simp only [lacking] at hi
  split at hi
  · cases hi
  · cases hi
    exact h

theorem finds_title (hmissing : P titleMissing) (hshort : ∀ n, P (titleTooShort n))
    (hlong : ∀ n, P (titleTooLong n)) : Finds P title := by
  intro p i hi
  simp only [title] at hi
  split at hi
  · cases hi
    exact hmissing
  · simp only [titleIssue?] at hi
    split at hi
    · cases hi
      exact hshort _
    · split at hi
      · cases hi
        exact hlong _
      · cases hi

theorem finds_mainHeading (hmissing : P mainHeadingMissing) (hmany : ∀ n, P (mainHeadingsMany n)) :
    Finds P mainHeading := by
  intro p i hi
  simp only [mainHeading] at hi
  split at hi
  · cases hi
    exact hmissing
  · cases hi
  · cases hi
    exact hmany _

end Rule

open Rule in
theorem Category.finds_isFilled_of_mem_rules {c : Category} {r : Rule} (h : r ∈ c.rules) :
    r.Finds Issue.IsFilled := by
  cases c <;> simp only [Category.rules, List.mem_cons, List.not_mem_nil, or_false] at h <;>
    rcases h with rfl | rfl | rfl
  · exact finds_title (by simp [Issue.IsFilled, titleMissing])
      (fun n => by simp [Issue.IsFilled, titleTooShort])
      fun n => by simp [Issue.IsFilled, titleTooLong]
  · exact finds_lacking (by simp [Issue.IsFilled])
  · exact finds_lacking (by simp [Issue.IsFilled])
  · exact finds_exceeding fun n => by simp [Issue.IsFilled]
  · exact finds_exceeding fun n => by simp [Issue.IsFilled]
  · exact finds_lacking (by simp [Issue.IsFilled])
  · exact finds_mainHeading (by simp [Issue.IsFilled, mainHeadingMissing])
      fun n => by simp [Issue.IsFilled, mainHeadingsMany]
  · exact finds_lacking (by simp [Issue.IsFilled])
  · exact finds_exceeding fun n => by simp [Issue.IsFilled]
  · exact finds_exceeding fun n => by simp [Issue.IsFilled]
  · exact finds_exceeding fun n => by simp [Issue.IsFilled]
  · exact finds_exceeding fun n => by simp [Issue.IsFilled]

theorem Page.isFilled_of_mem_evaluate {p : Page} {i : Issue} (h : i ∈ p.evaluate) :
    i.IsFilled := by
  obtain ⟨c, -, hc⟩ := List.mem_flatMap.mp h
  obtain ⟨r, hr, hi⟩ := List.mem_filterMap.mp hc
  exact c.finds_isFilled_of_mem_rules hr hi

end PageAudit
