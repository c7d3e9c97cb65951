import Mathlib.Data.List.Basic
import PageAudit.Report.Basic

/-!
# Reports by category

The groups of a report leave out the categories without issues, but no issue
(`Report.flatMap_byCategory`), and have each issue once (`Report.flatMap_byCategory_perm`). Issues
put together category by category are in the order of the categories
(`Report.pairwise_flatMap_all`), and a report in which they stand so already is not changed by
grouping them (`Report.flatMap_byCategory_of_grouped`).
-/

namespace PageAudit

theorem Category.mem_all (c : Category) : c ∈ all := by
  cases c <;> decide

theorem Category.pairwise_idxOf_all : all.Pairwise fun c d => all.idxOf c ≤ all.idxOf d := by
  decide

namespace Report

theorem category_of_mem_ofCategory (r : Report) (c : Category) :
    ∀ i ∈ r.ofCategory c, i.category = c := fun _ hi =>
  of_decide_eq_true (List.mem_filter.mp hi).2

theorem flatMap_filter_nonempty :
    ∀ groups : List (Category × List Issue),
      (groups.filter (!·.2.isEmpty)).flatMap (·.2) = groups.flatMap (·.2)
  | [] => rfl
  | (_, []) :: groups => by
    simpa using flatMap_filter_nonempty groups
  | (_, _ :: _) :: groups => by
    simpa using flatMap_filter_nonempty groups

theorem flatMap_byCategory (r : Report) :
    r.byCategory.flatMap (·.2) = Category.all.flatMap r.ofCategory := by
  rw [byCategory, flatMap_filter_nonempty, List.flatMap_map]

theorem flatMap_byCategory_perm (r : Report) : (r.byCategory.flatMap (·.2)).Perm r.issues := by
  rw [flatMap_byCategory, List.perm_iff_count]
  intro i
  have hcount : ∀ c, (r.ofCategory c).count i = if i.category = c then r.issues.count i else 0 := by
    intro c
    split
    · exact List.count_filter (by simpa)
    · refine List.count_eq_zero.mpr fun hmem => ?_
      simp_all [ofCategory]
  cases hc : i.category <;> simp [Category.all, hcount, hc]

variable {f : Category → List Issue}

/-- Among the issues of all categories, one after the other, those of one category are found
again. -/
theorem filter_flatMap_all (hf : ∀ c, ∀ i ∈ f c, i.category = c) (c : Category) :
    (Category.all.flatMap f).filter (·.category = c) = f c := by
  have hself : (f c).filter (·.category = c) = f c := by
    rw [List.filter_eq_self]
    exact fun i hi => decide_eq_true (hf c i hi)
  have hother : ∀ d ≠ c, (f d).filter (·.category = c) = [] := by
    intro d hd
    rw [List.filter_eq_nil_iff]
    intro i hi
    simpa [hf d i hi] using hd
  cases c <;> simp [Category.all, hself, hother]

/-- The issues of all categories, one after the other, are in the order of the categories. -/
theorem pairwise_flatMap_all (hf : ∀ c, ∀ i ∈ f c, i.category = c) :
    (Category.all.flatMap f).Pairwise fun i j =>
      Category.all.idxOf i.category ≤ Category.all.idxOf j.category := by
  refine List.pairwise_flatMap.mpr ⟨fun c _ => ?_, Category.pairwise_idxOf_all.imp ?_⟩
  · refine List.pairwise_of_forall_mem_list fun i hi j hj => ?_
    exact Nat.le_of_eq (by rw [hf c i hi, hf c j hj])
  · intro c d hcd i hi j hj
    rwa [hf c i hi, hf d j hj]

theorem flatMap_byCategory_of_grouped (hf : ∀ c, ∀ i ∈ f c, i.category = c) {r : Report}
    (hr : r.issues = Category.all.flatMap f) : r.byCategory.flatMap (·.2) = r.issues := by
  have hof : r.ofCategory = f := by
    funext c
    rw [ofCategory, hr, filter_flatMap_all hf]
  rw [flatMap_byCategory, hof, hr]

end Report

end PageAudit
