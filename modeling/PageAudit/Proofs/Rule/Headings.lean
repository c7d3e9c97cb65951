import PageAudit.Proofs.Dom.Tally
import PageAudit.Proofs.Rule.Titled

/-!
# Skipped heading levels

The levels of the headings outside templates, in document order, are those of a page
(`Page.levels`). A level is skipped where one of them lies more than one below the one before it,
zero standing before the first (`Rule.skips_iff`).

Where no level is skipped, the headings come down to a level by way of every level above it
(`Rule.exists_getElem?_of_not_skips`). So the first heading of such a page has the first level, and
a page with headings but without a main heading has both issues (`Page.skippedLevel_spec`).
-/

namespace PageAudit

namespace Rule

/-- The level of a heading of this name. -/
def levelOf? : String → Option Nat
  | "h1" => some 1
  | "h2" => some 2
  | "h3" => some 3
  | "h4" => some 4
  | "h5" => some 5
  | "h6" => some 6
  | _ => none

theorem levelOf?_of_mem : ∀ name ∈ headings, levelOf? name = some (headingLevel name) := by
  decide +kernel

theorem levelOf?_of_not_mem {name : String} (h : name ∉ headings) : levelOf? name = none := by
  unfold levelOf?
  split <;> simp_all [headings]

theorem pos_of_levelOf? {name : String} {level : Nat} (h : levelOf? name = some level) :
    1 ≤ level := by
  unfold levelOf? at h
  split at h <;> cases h <;> decide

theorem levelOf?_eq_one_iff (name : String) : levelOf? name = some 1 ↔ name = "h1" := by
  unfold levelOf?
  split <;> simp_all

/-! ## Levels -/

/-- At the same position, `previous :: levels` has the level that comes before the one in
`levels`. -/
theorem skips_iff : ∀ {previous : Nat} {levels : List Nat},
    skips previous levels ↔ ∃ i before level : Nat, (previous :: levels)[i]? = some before
      ∧ levels[i]? = some level ∧ before + 1 < level
  | _, [] => by simp [skips]
  | previous, first :: levels => by
    rw [skips, Bool.or_eq_true, decide_eq_true_iff, skips_iff]
    constructor
    · rintro (h | ⟨i, h⟩)
      · exact ⟨0, previous, first, rfl, rfl, h⟩
      · exact ⟨i + 1, h⟩
    · rintro ⟨_ | i, h⟩
      · left
        simpa using h
      · exact .inr ⟨i, h⟩

/-- Levels that go down one at a time come to each level by way of all those between it and the
level that they start from. -/
theorem exists_getElem?_of_not_skips : ∀ {previous : Nat} {levels : List Nat},
    ¬ skips previous levels → ∀ {i level : Nat}, levels[i]? = some level →
      ∀ {k : Nat}, previous < k → k < level → ∃ j < i, levels[j]? = some k
  | _, [], _, _, _, hi, _, _, _ => by simp at hi
  | previous, first :: levels, hskips, i, level, hi, k, hk, hlevel => by
    simp only [skips, Bool.or_eq_true, decide_eq_true_iff, not_or] at hskips
    obtain ⟨hfirst, hrest⟩ := hskips
    rcases i with _ | i
    · obtain rfl : first = level := by simpa using hi
      omega
    · rw [List.getElem?_cons_succ] at hi
      rcases Nat.lt_or_ge first k with hlt | hge
      · obtain ⟨j, hj, hmem⟩ := exists_getElem?_of_not_skips hrest hi hlt hlevel
        exact ⟨j + 1, Nat.succ_lt_succ hj, hmem⟩
      · obtain rfl : first = k := by omega
        exact ⟨0, Nat.zero_lt_succ i, rfl⟩

end Rule

namespace Page

/-- The levels of the headings that no template encloses, in document order. -/
def levels (p : Page) : List Nat :=
  p.visible.filterMap fun e => Rule.levelOf? e.name

theorem pos_of_mem_levels (p : Page) {level : Nat} (h : level ∈ p.levels) : 1 ≤ level := by
  obtain ⟨e, -, he⟩ := List.mem_filterMap.mp h
  exact Rule.pos_of_levelOf? he

theorem headingLevels_eq (p : Page) : Rule.headingLevels p = p.levels := by
  rw [Rule.headingLevels, queryAll_eq_filter_visible, ← List.filterMap_eq_map,
    List.filterMap_filter, levels]
  refine List.filterMap_congr fun e _ => ?_
  by_cases hname : e.name ∈ Rule.headings
  · simp [Query.asks_names, hname, Rule.levelOf?_of_mem]
  · simp [Query.asks_names, hname, Rule.levelOf?_of_not_mem]

theorem mainHeadings_eq (p : Page) : Rule.mainHeadings p = p.levels.count 1 := by
  rw [Rule.mainHeadings, queryAll_eq_filter_visible, levels, List.count, List.countP_filterMap,
    ← List.countP_eq_length_filter]
  refine List.countP_congr fun e _ => ?_
  rw [decide_eq_true_iff, Query.asks_named, ← Rule.levelOf?_eq_one_iff]
  cases Rule.levelOf? e.name <;> simp

theorem mem_check_skipped (p : Page) :
    "Skipped Heading Levels" ∈ (p.check .structural).map (·.title) ↔ Rule.hasSkippedLevel p := by
  have hlacking : "Skipped Heading Levels" ∈ (p.check .structural).map (·.title)
      ↔ ¬ (!Rule.hasSkippedLevel p) :=
    Issue.mem_map_title_lacking (p.filter_check .structural 1 rfl rfl) List.mem_cons_self
  simpa using hlacking

theorem mem_check_missing (p : Page) :
    "Missing H1 Heading" ∈ (p.check .structural).map (·.title) ↔ 1 ∉ p.levels := by
  rw [Rule.mem_map_title_mainHeading (p.filter_check .structural 0 rfl rfl) List.mem_cons_self,
    mainHeadings_eq, List.count_eq_zero]

/-- A level is skipped exactly where one lies more than one below the level before it, the level
before the first being zero. If none is, every heading comes after headings of all the levels above
its own. A skipped level is reported whenever there is one; a page with headings, but none of the
first level, has this issue and that of the missing main heading, and a page without headings does
not have this one. -/
theorem skippedLevel_spec (p : Page) :
    (Rule.hasSkippedLevel p ↔ ∃ i before level : Nat,
        (0 :: p.levels)[i]? = some before ∧ p.levels[i]? = some level ∧ before + 1 < level)
      ∧ (¬ Rule.hasSkippedLevel p → ∀ i level : Nat, p.levels[i]? = some level →
          ∀ k, 1 ≤ k → k < level → ∃ j < i, p.levels[j]? = some k)
      ∧ ("Skipped Heading Levels" ∈ (p.check .structural).map (·.title)
          ↔ Rule.hasSkippedLevel p)
      ∧ (p.levels ≠ [] → 1 ∉ p.levels →
          "Missing H1 Heading" ∈ (p.check .structural).map (·.title)
            ∧ "Skipped Heading Levels" ∈ (p.check .structural).map (·.title))
      ∧ (p.levels = [] →
          "Skipped Heading Levels" ∉ (p.check .structural).map (·.title)) := by
  have hskips : Rule.hasSkippedLevel p ↔ Rule.skips 0 p.levels := by
    rw [Rule.hasSkippedLevel, headingLevels_eq]
  refine ⟨hskips.trans Rule.skips_iff, fun hnone i level hi k hk hlevel => ?_,
    p.mem_check_skipped, fun hheadings hone => ⟨p.mem_check_missing.mpr hone, ?_⟩, fun hnil => ?_⟩
  · exact Rule.exists_getElem?_of_not_skips (mt hskips.mpr hnone) hi hk hlevel
  · rw [mem_check_skipped, hskips]
    by_contra hnone
    obtain ⟨level, hlevel⟩ := List.exists_mem_of_ne_nil _ hheadings
    obtain ⟨i, hi⟩ := List.getElem?_of_mem hlevel
    have hlt : 1 < level :=
      lt_of_le_of_ne (p.pos_of_mem_levels hlevel) fun heq => hone (heq ▸ hlevel)
    obtain ⟨j, -, hj⟩ := Rule.exists_getElem?_of_not_skips hnone hi Nat.zero_lt_one hlt
    exact hone (List.mem_of_getElem? hj)
  · rw [mem_check_skipped, hskips, hnil]
    exact Bool.false_ne_true

/-- Headings that go down to the third level, one inside the other and past one in a template, and
come back to the first. -/
def nestedHeadings : Page where
  nodes := [.element "h1" [] [.element "div" [] [.element "h2" [] []],
    .element "template" [] [.element "h6" [] []], .element "h3" [] []], .element "h1" [] []]

/-- Headings of the second and third level. -/
def lowHeadings : Page where
  nodes := [.element "h2" [] [], .element "p" [] [.element "h3" [] []]]

theorem skippedLevel_spec_headings :
    (nestedHeadings.levels = [1, 2, 3, 1] ∧ ¬ Rule.hasSkippedLevel nestedHeadings
        ∧ ∃ j < 2, nestedHeadings.levels[j]? = some 2)
      ∧ (lowHeadings.levels = [2, 3]
        ∧ "Missing H1 Heading" ∈ (lowHeadings.check .structural).map (·.title)
        ∧ "Skipped Heading Levels" ∈ (lowHeadings.check .structural).map (·.title))
      ∧ (levels ⟨[]⟩ = [] ∧ "Skipped Heading Levels" ∉ (check ⟨[]⟩ .structural).map (·.title)) := by
  have hnested : nestedHeadings.levels = [1, 2, 3, 1] := by decide +kernel
  have hlow : lowHeadings.levels = [2, 3] := by decide +kernel
  have hnone : ¬ Rule.hasSkippedLevel nestedHeadings := by decide +kernel
  obtain ⟨-, hcome, -⟩ := skippedLevel_spec nestedHeadings
  obtain ⟨-, -, -, hboth, -⟩ := skippedLevel_spec lowHeadings
  obtain ⟨-, -, -, -, hempty⟩ := skippedLevel_spec ⟨[]⟩
  exact ⟨⟨hnested, hnone, hcome hnone 2 3 (by rw [hnested]; rfl) 2 (by decide) (by decide)⟩,
    ⟨hlow, hboth (by rw [hlow]; decide) (by rw [hlow]; decide)⟩, rfl, hempty rfl⟩

end Page

end PageAudit
