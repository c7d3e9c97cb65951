import Mathlib.Data.List.Forall2
import Mathlib.Data.List.Nodup
import PageAudit.Proofs.Report.Grouping
import PageAudit.Proofs.Rule.Filled
import PageAudit.Text.Digit

/-!
# The order of the issues

Each rule reports under one title, or under one of a few that exclude each other. The titles of the
issues on a page are therefore chosen from those of the rules, at most one from each and in the
order of the rules (`Page.chosenFrom_titles`). With the category that each rule reports in, this
says how the issues of any page are ordered (`Page.evaluate_inOrder`).
-/

namespace PageAudit

/-! ## Titles -/

/-- The titles under which the rules of a category report, rule by rule. -/
def Category.titles : Category → List (List String)
  | seo => [["Missing <title> tag", "Title too short", "Title too long"],
      ["Missing Meta Description"], ["Missing Viewport Meta Tag"]]
  | accessibility => [["Images missing Alt text"], ["Non-descriptive Link Text"],
      ["No Semantic Landmarks Found"]]
  | structural => [["Missing H1 Heading", "Multiple H1 Headings"], ["Skipped Heading Levels"],
      ["Heavy use of Inline Styles"]]
  | performance => [["High Image Count"], ["Large Inline Scripts"], ["Render-blocking Scripts"]]

/-- The titles of all rules, in the order in which they run. -/
def ruleTitles : List (List String) :=
  Category.all.flatMap Category.titles

/-- Of each group, in order, at most one is taken. -/
inductive ChosenFrom {α : Type} : List (List α) → List α → Prop where
  | nil : ChosenFrom [] []
  | skip (group : List α) {groups : List (List α)} {as : List α} (h : ChosenFrom groups as) :
      ChosenFrom (group :: groups) as
  | take {group : List α} {a : α} (ha : a ∈ group) {groups : List (List α)} {as : List α}
      (h : ChosenFrom groups as) : ChosenFrom (group :: groups) (a :: as)

namespace ChosenFrom

variable {α : Type} {groups groups' : List (List α)} {as as' : List α}

theorem append (h : ChosenFrom groups as) (h' : ChosenFrom groups' as') :
    ChosenFrom (groups ++ groups') (as ++ as') := by
  induction h with
  | nil => exact h'
  | skip group _ ih => exact .skip group ih
  | take ha _ ih => exact .take ha ih

theorem sublist_flatten (h : ChosenFrom groups as) : as.Sublist groups.flatten := by
  induction h with
  | nil => exact .slnil
  | skip group _ ih => exact ih.trans (List.sublist_append_right group _)
  | take ha _ ih => exact (List.singleton_sublist.mpr ha).append ih

/-- From a group that overlaps with none of the others, none of theirs is taken. -/
theorem countP_eq_zero [BEq α] [LawfulBEq α] (h : ChosenFrom groups as) {group : List α}
    (hgroup : ∀ other ∈ groups, List.Disjoint group other) : as.countP group.contains = 0 := by
  rw [List.countP_eq_zero]
  intro a ha hcontains
  obtain ⟨other, hother, hmem⟩ := List.mem_flatten.mp (h.sublist_flatten.subset ha)
  exact hgroup other hother (List.contains_iff_mem.mp hcontains) hmem

/-- If no two groups overlap, at most one is taken from each. -/
theorem countP_le_one [BEq α] [LawfulBEq α] (h : ChosenFrom groups as) :
    groups.Pairwise List.Disjoint → ∀ group ∈ groups, as.countP group.contains ≤ 1 := by
  induction h with
  | nil => simp
  | skip first h ih =>
    intro hgroups group hgroup
    obtain ⟨hfirst, hrest⟩ := List.pairwise_cons.mp hgroups
    rcases List.mem_cons.mp hgroup with rfl | hgroup
    · exact (h.countP_eq_zero hfirst).le.trans (Nat.zero_le 1)
    · exact ih hrest group hgroup
  | take ha h ih =>
    intro hgroups group hgroup
    obtain ⟨hfirst, hrest⟩ := List.pairwise_cons.mp hgroups
    rcases List.mem_cons.mp hgroup with rfl | hgroup
    · rw [List.countP_cons, h.countP_eq_zero hfirst]
      split <;> omega
    · have hnot : ¬ group.contains _ := fun hcontains =>
        hfirst group hgroup ha (List.contains_iff_mem.mp hcontains)
      rw [List.countP_cons_of_neg hnot]
      exact ih hrest group hgroup

end ChosenFrom

/-! ## Rules -/

namespace Rule

/-- Whatever the rule finds is of this category and has one of these titles. -/
def ReportsUnder (c : Category) (titles : List String) (r : Rule) : Prop :=
  r.Finds fun i => i.category = c ∧ i.title ∈ titles

/-- The level of a heading is the digit in its name. -/
theorem digitValue?_headingLevel :
    ∀ name ∈ headings, (name.toList[1]?).bind Text.digitValue? = some (headingLevel name) := by
  decide +kernel

/-- Of rules that report under titles of their own, each contributes at most one title. -/
theorem chosenFrom_filterMap {c : Category} (p : Page) :
    ∀ {titles : List (List String)} {rules : List Rule},
      List.Forall₂ (ReportsUnder c) titles rules →
      ChosenFrom titles ((rules.filterMap (· p)).map (·.title))
  | _, _, .nil => .nil
  | own :: _, r :: rules, .cons h hs => by
    have hrest := chosenFrom_filterMap p hs
    cases hr : r p with
    | none =>
      simp only [List.filterMap_cons, hr]
      exact hrest.skip own
    | some i =>
      simp only [List.filterMap_cons, hr, List.map_cons]
      exact hrest.take (h hr).2

theorem category_of_mem_filterMap {c : Category} {p : Page} {i : Issue} :
    ∀ {titles : List (List String)} {rules : List Rule},
      List.Forall₂ (ReportsUnder c) titles rules → i ∈ rules.filterMap (· p) → i.category = c
  | _, _, .nil, hi => by simp at hi
  | _, first :: rules, .cons h hs, hi => by
    obtain ⟨r, hr, hfound⟩ := List.mem_filterMap.mp hi
    rcases List.mem_cons.mp hr with rfl | hr
    · exact (h hfound).1
    · exact category_of_mem_filterMap hs (List.mem_filterMap.mpr ⟨r, hr, hfound⟩)

end Rule

namespace Category

open Rule in
theorem forall₂_reportsUnder (c : Category) : List.Forall₂ (ReportsUnder c) c.titles c.rules := by
  cases c
  · exact .cons (finds_title (by simp [titleMissing]) (fun n => by simp [titleTooShort])
        fun n => by simp [titleTooLong])
      (.cons (finds_lacking (by simp)) (.cons (finds_lacking (by simp)) .nil))
  · exact .cons (finds_exceeding fun n => by simp) (.cons (finds_exceeding fun n => by simp)
      (.cons (finds_lacking (by simp)) .nil))
  · exact .cons (finds_mainHeading (by simp [mainHeadingMissing])
        fun n => by simp [mainHeadingsMany])
      (.cons (finds_lacking (by simp)) (.cons (finds_exceeding fun n => by simp) .nil))
  · exact .cons (finds_exceeding fun n => by simp) (.cons (finds_exceeding fun n => by simp)
      (.cons (finds_exceeding fun n => by simp) .nil))

end Category

theorem nodup_ruleTitles : ruleTitles.flatten.Nodup := by
  decide +kernel

/-! ## Pages -/

namespace Page

variable (p : Page)

/-- The rules of a category report in that category. -/
theorem category_of_mem_check (c : Category) : ∀ i ∈ p.check c, i.category = c := fun _ hi =>
  Rule.category_of_mem_filterMap c.forall₂_reportsUnder hi

theorem chosenFrom_titles :
    ∀ cs : List Category,
      ChosenFrom (cs.flatMap Category.titles) ((cs.flatMap p.check).map (·.title))
  | [] => .nil
  | c :: cs => by
    simp only [List.flatMap_cons, List.map_append]
    exact (Rule.chosenFrom_filterMap p c.forall₂_reportsUnder).append (chosenFrom_titles cs)

/-- On every page, the titles of the issues are a part of the titles of the rules, in the order of
the rules, none of them twice and at most one of each rule. Every issue is of the category whose
rules found it, so that the categories stand one after the other, and grouping the issues of a
report by category gives them back. Nothing fails on the way: every heading that is found has its
level in its name, and every issue is valid. -/
theorem evaluate_inOrder :
    (p.evaluate.map (·.title)).Sublist ruleTitles.flatten
      ∧ (p.evaluate.map (·.title)).Nodup
      ∧ (∀ titles ∈ ruleTitles, (p.evaluate.map (·.title)).countP titles.contains ≤ 1)
      ∧ (∀ c, ∀ i ∈ p.check c, i.category = c)
      ∧ (p.evaluate.Pairwise fun i j =>
          Category.all.idxOf i.category ≤ Category.all.idxOf j.category)
      ∧ (∀ source warnings,
          (Report.mk source p.evaluate warnings).byCategory.flatMap (·.2) = p.evaluate)
      ∧ (∀ e ∈ p.queryAll ⟨some Rule.headings, []⟩,
          (e.name.toList[1]?).bind Text.digitValue? = some (Rule.headingLevel e.name))
      ∧ ∀ i ∈ p.evaluate, Issue.ofJson i.toJson = .ok i := by
  have hchosen : ChosenFrom ruleTitles (p.evaluate.map (·.title)) :=
    p.chosenFrom_titles Category.all
  have hdisjoint : ruleTitles.Pairwise List.Disjoint := (List.nodup_flatten.mp nodup_ruleTitles).2
  refine ⟨hchosen.sublist_flatten, hchosen.sublist_flatten.nodup nodup_ruleTitles,
    hchosen.countP_le_one hdisjoint, p.category_of_mem_check,
    Report.pairwise_flatMap_all p.category_of_mem_check, ?_, ?_, ?_⟩
  · exact fun source warnings => Report.flatMap_byCategory_of_grouped p.category_of_mem_check rfl
  · intro e he
    have haccepts := List.of_mem_filter he
    simp only [Query.accepts, List.all_nil, Bool.and_true, Bool.and_eq_true] at haccepts
    exact Rule.digitValue?_headingLevel e.name (List.contains_iff_mem.mp haccepts.1)
  · exact fun i hi => Issue.ofJson_toJson (isFilled_of_mem_evaluate hi)

end Page

end PageAudit
