import Mathlib.Logic.Basic
import PageAudit.Report.Basic

/-!
# The most serious severity

The smaller rank is the more serious. The most serious severity of a report reaches a threshold
exactly if some issue in the report does (`Report.highestSeverity_any_iff`). So it is the one that
is counted while none above it is (`Report.highestSeverity_eq_some_iff`).
-/

namespace PageAudit.Report

theorem rank_moreSerious_le_iff (s t : Severity) (n : Nat) :
    (moreSerious s t).rank ≤ n ↔ s.rank ≤ n ∨ t.rank ≤ n := by
  unfold moreSerious
  split <;> omega

theorem rank_foldl_moreSerious_le_iff (n : Nat) :
    ∀ (ss : List Severity) (s : Severity),
      (ss.foldl moreSerious s).rank ≤ n ↔ ∃ t ∈ s :: ss, t.rank ≤ n
  | [], s => by simp
  | t :: ss, s => by
    rw [List.foldl_cons, rank_foldl_moreSerious_le_iff n ss]
    simp only [List.mem_cons, exists_eq_or_imp, rank_moreSerious_le_iff, or_assoc]

theorem highestSeverity_any_iff (r : Report) (threshold : Severity) :
    r.highestSeverity.any (·.rank ≤ threshold.rank)
      ↔ ∃ i ∈ r.issues, i.severity.rank ≤ threshold.rank := by
  unfold highestSeverity
  cases r.issues with
  | nil => simp [highestOf]
  | cons i is => simp [highestOf, rank_foldl_moreSerious_le_iff]

theorem rank_injective {s t : Severity} (h : s.rank = t.rank) : s = t := by
  cases s <;> cases t <;> first | rfl | cases h

theorem count_pos_iff (r : Report) (s : Severity) :
    0 < r.count s ↔ ∃ i ∈ r.issues, i.severity = s := by
  unfold count
  rw [List.countP_pos_iff]
  simp only [decide_eq_true_eq]

theorem highestSeverity_eq_none_iff (r : Report) : r.highestSeverity = none ↔ r.issues = [] := by
  unfold highestSeverity
  cases r.issues <;> simp [highestOf]

/-- The severity found is that of some issue, and no issue has a more serious one. -/
theorem count_of_highestSeverity {r : Report} {s : Severity} (h : r.highestSeverity = some s) :
    0 < r.count s ∧ ∀ t : Severity, t.rank < s.rank → r.count t = 0 := by
  have hany (t : Severity) : s.rank ≤ t.rank ↔ ∃ i ∈ r.issues, i.severity.rank ≤ t.rank := by
    rw [← highestSeverity_any_iff, h]
    simp
  have hleast : ∀ i ∈ r.issues, s.rank ≤ i.severity.rank := fun i hi =>
    (hany i.severity).2 ⟨i, hi, Nat.le_refl _⟩
  constructor
  · obtain ⟨i, hi, hle⟩ := (hany s).1 (Nat.le_refl _)
    exact (r.count_pos_iff s).2 ⟨i, hi, rank_injective (Nat.le_antisymm hle (hleast i hi))⟩
  · intro t ht
    refine Nat.eq_zero_of_not_pos fun hpos => ?_
    obtain ⟨i, hi, rfl⟩ := (r.count_pos_iff t).1 hpos
    exact Nat.not_le.2 ht (hleast i hi)

theorem highestSeverity_eq_some_iff (r : Report) (s : Severity) :
    r.highestSeverity = some s
      ↔ 0 < r.count s ∧ ∀ t : Severity, t.rank < s.rank → r.count t = 0 := by
  refine ⟨count_of_highestSeverity, fun ⟨hpos, hzero⟩ => ?_⟩
  obtain ⟨i, hi, rfl⟩ := (r.count_pos_iff s).1 hpos
  cases hm : r.highestSeverity with
  | none =>
    rw [highestSeverity_eq_none_iff] at hm
    simp [hm] at hi
  | some m =>
    obtain ⟨hmpos, hmzero⟩ := count_of_highestSeverity hm
    -- Whichever of the two is more serious would be counted as well as not.
    rcases Nat.lt_trichotomy m.rank i.severity.rank with hlt | heq | hlt
    · have := hzero m hlt
      omega
    · rw [rank_injective heq]
    · have := hmzero i.severity hlt
      omega

end PageAudit.Report
