import PageAudit.Proofs.Report.Grouping
import PageAudit.Proofs.Report.Severity
import PageAudit.Report.Editing

/-!
# The views of a report

A report is looked at by category, by severity, and by its most serious issue. Each view goes
through the issues once more, and nothing but the issues holds them together.

Grouping by category sorts, and keeps the order of issues of one category. There is only one list
that is in order and has the issues of each category as they were (`eq_of_filter_category_eq`), so
the groups, one after the other, are what any stable sort of the issues gives
(`Report.flatMap_byCategory_eq_mergeSort`). All three views are right after whatever changes
(`Report.views_edited`).
-/

namespace PageAudit

/-- The category of the first issue does not come after that of the second. -/
def Issue.notAfter (i j : Issue) : Bool :=
  Category.all.idxOf i.category ≤ Category.all.idxOf j.category

theorem Issue.notAfter_iff {i j : Issue} :
    i.notAfter j ↔ Category.all.idxOf i.category ≤ Category.all.idxOf j.category := by
  simp [notAfter]

theorem Issue.notAfter_of_eq {i j : Issue} (h : i.category = j.category) : i.notAfter j := by
  rw [notAfter_iff]
  exact Nat.le_of_eq (by rw [h])

theorem Category.idxOf_all_injective {c d : Category}
    (h : Category.all.idxOf c = Category.all.idxOf d) : c = d := by
  revert h
  cases c <;> cases d <;> decide

theorem Issue.notAfter_trans (i j k : Issue) : i.notAfter j → j.notAfter k → i.notAfter k := by
  simp only [notAfter_iff]
  omega

theorem Issue.notAfter_total (i j : Issue) : (i.notAfter j || j.notAfter i) = true := by
  rw [Bool.or_eq_true, notAfter_iff, notAfter_iff]
  omega

theorem Issue.notAfter_of_mem {i j : Issue} {is : List Issue}
    (h : (i :: is).Pairwise fun i j => i.notAfter j) (hj : j ∈ i :: is) : i.notAfter j := by
  rcases List.mem_cons.1 hj with rfl | hj
  · exact notAfter_of_eq rfl
  · exact (List.pairwise_cons.1 h).1 j hj

/-- The first issue of a list is found in every list that has the same issues in each category. -/
theorem mem_of_filter_category_eq {is js : List Issue} {j : Issue}
    (h : ∀ c, is.filter (·.category = c) = (j :: js).filter (·.category = c)) : j ∈ is := by
  have hmem : j ∈ is.filter (·.category = j.category) := by
    rw [h]
    simp
  exact List.mem_of_mem_filter hmem

/-- Two lists in the order of the categories are the same if they have the same issues in each
category. -/
theorem eq_of_filter_category_eq :
    ∀ {is js : List Issue}, is.Pairwise (fun i j => i.notAfter j) →
      js.Pairwise (fun i j => i.notAfter j) →
      (∀ c, is.filter (·.category = c) = js.filter (·.category = c)) → is = js
  | [], [], _, _, _ => rfl
  | [], _ :: _, _, _, h => absurd (mem_of_filter_category_eq h) List.not_mem_nil
  | _ :: _, [], _, _, h =>
    absurd (mem_of_filter_category_eq fun c => (h c).symm) List.not_mem_nil
  | i :: is, j :: js, hi, hj, h => by
    -- Each head is found in the other list, so neither category comes first.
    have hij : i.notAfter j := Issue.notAfter_of_mem hi (mem_of_filter_category_eq h)
    have hji : j.notAfter i :=
      Issue.notAfter_of_mem hj (mem_of_filter_category_eq fun c => (h c).symm)
    have hcategory : i.category = j.category :=
      Category.idxOf_all_injective
        (Nat.le_antisymm (Issue.notAfter_iff.1 hij) (Issue.notAfter_iff.1 hji))
    have hheads := h i.category
    simp only [hcategory, decide_true, List.filter_cons_of_pos, List.cons.injEq] at hheads
    obtain ⟨rfl, -⟩ := hheads
    congr 1
    refine eq_of_filter_category_eq hi.of_cons hj.of_cons fun c => ?_
    have hc := h c
    by_cases hic : i.category = c
    · simpa [hic] using hc
    · simpa [hic] using hc

/-- A stable sort leaves the issues of one category as they were. -/
theorem filter_category_mergeSort (is : List Issue) (c : Category) :
    (is.mergeSort Issue.notAfter).filter (·.category = c) = is.filter (·.category = c) := by
  have hordered : (is.filter (·.category = c)).Pairwise fun i j => i.notAfter j := by
    refine List.pairwise_of_forall_mem_list fun i hi j hj => ?_
    simp only [List.mem_filter, decide_eq_true_eq] at hi hj
    exact Issue.notAfter_of_eq (hi.2.trans hj.2.symm)
  have hsublist : (is.filter (·.category = c)).Sublist (is.mergeSort Issue.notAfter) :=
    List.sublist_mergeSort Issue.notAfter_trans Issue.notAfter_total hordered
      List.filter_sublist
  have hfiltered := hsublist.filter (·.category = c)
  rw [List.filter_filter] at hfiltered
  simp only [Bool.and_self] at hfiltered
  refine (hfiltered.eq_of_length ?_).symm
  exact ((List.mergeSort_perm is Issue.notAfter).filter _).length_eq.symm

namespace Report

theorem filter_flatMap_byCategory (r : Report) (c : Category) :
    (r.byCategory.flatMap (·.2)).filter (·.category = c) = r.issues.filter (·.category = c) := by
  rw [flatMap_byCategory, filter_flatMap_all r.category_of_mem_ofCategory, ofCategory]

theorem pairwise_flatMap_byCategory (r : Report) :
    (r.byCategory.flatMap (·.2)).Pairwise fun i j => i.notAfter j := by
  rw [flatMap_byCategory]
  simp only [Issue.notAfter_iff]
  exact pairwise_flatMap_all r.category_of_mem_ofCategory

theorem flatMap_byCategory_eq_mergeSort (r : Report) :
    r.byCategory.flatMap (·.2) = r.issues.mergeSort Issue.notAfter := by
  refine eq_of_filter_category_eq r.pairwise_flatMap_byCategory ?_ fun c => ?_
  · exact List.pairwise_mergeSort Issue.notAfter_trans Issue.notAfter_total _
  · rw [filter_flatMap_byCategory, filter_category_mergeSort]

theorem map_fst_byCategory (r : Report) :
    r.byCategory.map (·.1) = Category.all.filter fun c => r.issues.any (·.category = c) := by
  unfold byCategory
  rw [List.filter_map, List.map_map]
  have hid : ((fun g : Category × List Issue => g.1) ∘ fun c => (c, r.ofCategory c)) = id := rfl
  rw [hid, List.map_id]
  refine List.filter_congr fun c _ => ?_
  rw [Bool.eq_iff_iff]
  simp [ofCategory]

theorem mem_byCategory_iff (r : Report) (c : Category) (is : List Issue) :
    (c, is) ∈ r.byCategory ↔ is ≠ [] ∧ is = r.issues.filter (·.category = c) := by
  unfold byCategory
  simp only [List.mem_filter, List.mem_map, Prod.mk.injEq, Bool.not_eq_true',
    List.isEmpty_eq_false_iff]
  constructor
  · rintro ⟨⟨d, -, rfl, rfl⟩, hne⟩
    exact ⟨hne, rfl⟩
  · rintro ⟨hne, rfl⟩
    exact ⟨⟨c, c.mem_all, rfl, rfl⟩, hne⟩

theorem count_add (r : Report) :
    r.count .error + r.count .warning + r.count .info = r.issues.length := by
  obtain ⟨_, is, _⟩ := r
  unfold count
  dsimp only
  induction is with
  | nil => rfl
  | cons i is ih =>
    simp only [List.countP_cons, List.length_cons]
    cases i.severity <;> simp <;> omega

/-! ## Changes -/

/-- A change to the issues of a report. -/
inductive Edit where
  | add (issue : Issue)
  | remove (position : Int)
  deriving DecidableEq, Repr

/-- What becomes of a report by a change. A removal that fails leaves it as it was. -/
def edit (r : Report) : Edit → Report
  | .add i => r.add i
  | .remove position =>
    match r.remove position with
    | .ok r' => r'
    | .error _ => r

/-- What becomes of a report by changes, one after the other. -/
def edited (r : Report) (edits : List Edit) : Report :=
  edits.foldl edit r

/-- The views of a report agree with its issues, and so with each other. -/
structure HasTrueViews (r : Report) : Prop where
  /-- There is a group for each category with an issue, in the order of the categories. -/
  categories :
    r.byCategory.map (·.1) = Category.all.filter fun c => r.issues.any (·.category = c)
  /-- A group has the issues of its category, in their order, and at least one. -/
  groups : ∀ c is, (c, is) ∈ r.byCategory ↔ is ≠ [] ∧ is = r.issues.filter (·.category = c)
  sorted : r.byCategory.flatMap (·.2) = r.issues.mergeSort Issue.notAfter
  perm : (r.byCategory.flatMap (·.2)).Perm r.issues
  order : ∀ c,
    (r.byCategory.flatMap (·.2)).filter (·.category = c) = r.issues.filter (·.category = c)
  counts : r.count .error + r.count .warning + r.count .info = r.issues.length
  highest : ∀ s, r.highestSeverity = some s
    ↔ 0 < r.count s ∧ ∀ t : Severity, t.rank < s.rank → r.count t = 0
  clean : r.highestSeverity = none ↔ r.issues = []

theorem hasTrueViews (r : Report) : r.HasTrueViews where
  categories := r.map_fst_byCategory
  groups := r.mem_byCategory_iff
  sorted := r.flatMap_byCategory_eq_mergeSort
  perm := r.flatMap_byCategory_perm
  order := r.filter_flatMap_byCategory
  counts := r.count_add
  highest := r.highestSeverity_eq_some_iff
  clean := r.highestSeverity_eq_none_iff

/-- Whatever is added to a report and removed from it, its views are true of the issues that are
left. -/
theorem views_edited (r : Report) (edits : List Edit) : (r.edited edits).HasTrueViews :=
  (r.edited edits).hasTrueViews

end Report

end PageAudit
