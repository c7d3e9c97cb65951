import PageAudit.Proofs.Rule.Order

/-!
# What a rule contributes

No two rules report under the same title. Of the issues on a page, those under the titles of a rule
are therefore what that rule found, and nothing else (`Page.filter_check`, `Page.filter_evaluate`).
-/

namespace PageAudit

namespace Rule

/-- Rules together with the titles under which they report, no title being that of two rules. -/
structure ApartBy (titles : List (List String)) (rules : List Rule) : Prop where
  finds : List.Forall₂ (fun own r => r.Finds fun i => i.title ∈ own) titles rules
  disjoint : titles.Pairwise List.Disjoint

variable {own other : List String} {r : Rule}

theorem Finds.filter_toList (h : r.Finds fun i => i.title ∈ own) (p : Page) :
    (r p).toList.filter (own.contains ·.title) = (r p).toList :=
  List.filter_eq_self.mpr fun _ hi => List.contains_iff_mem.mpr (h (Option.mem_toList.mp hi))

theorem Finds.filter_toList_eq_nil (h : r.Finds fun i => i.title ∈ other)
    (hdisjoint : List.Disjoint own other) (p : Page) :
    (r p).toList.filter (own.contains ·.title) = [] :=
  List.filter_eq_nil_iff.mpr fun _ hi hown =>
    hdisjoint (List.contains_iff_mem.mp hown) (h (Option.mem_toList.mp hi))

theorem filter_filterMap_cons (r : Rule) (rules : List Rule) (p : Page) (f : Issue → Bool) :
    ((r :: rules).filterMap (· p)).filter f
      = (r p).toList.filter f ++ (rules.filterMap (· p)).filter f := by
  rw [← List.filter_append, List.filterMap_cons]
  cases r p <;> rfl

/-- Rules that report under other titles find nothing under these. -/
theorem filter_filterMap_eq_nil (p : Page) : ∀ {titles : List (List String)} {rules : List Rule},
    List.Forall₂ (fun own r => r.Finds fun i => i.title ∈ own) titles rules →
    (∀ other ∈ titles, List.Disjoint own other) →
    (rules.filterMap (· p)).filter (own.contains ·.title) = []
  | _, _, .nil, _ => rfl
  | _, _, .cons hfirst hrest, hother => by
    rw [filter_filterMap_cons, hfirst.filter_toList_eq_nil (hother _ List.mem_cons_self),
      List.nil_append]
    exact filter_filterMap_eq_nil p hrest fun other h => hother other (List.mem_cons_of_mem _ h)

theorem ApartBy.filter_filterMap (p : Page) :
    ∀ {titles : List (List String)} {rules : List Rule} (k : Nat),
      ApartBy titles rules → titles[k]? = some own → rules[k]? = some r →
      (rules.filterMap (· p)).filter (own.contains ·.title) = (r p).toList
  | _, _, _, ⟨.nil, _⟩, hown, _ => by simp at hown
  | _, _, 0, ⟨.cons hfirst hrest, hdisjoint⟩, rfl, rfl => by
    rw [filter_filterMap_cons, hfirst.filter_toList,
      filter_filterMap_eq_nil p hrest (List.pairwise_cons.mp hdisjoint).1, List.append_nil]
  | _, _, k + 1, ⟨.cons hfirst hrest, hdisjoint⟩, hown, hr => by
    obtain ⟨hother, hpairwise⟩ := List.pairwise_cons.mp hdisjoint
    rw [List.getElem?_cons_succ] at hown hr
    rw [filter_filterMap_cons,
      hfirst.filter_toList_eq_nil (List.disjoint_symm (hother _ (List.mem_of_getElem? hown))),
      List.nil_append]
    exact ApartBy.filter_filterMap p k ⟨hrest, hpairwise⟩ hown hr

end Rule

namespace Category

/-- The rules of all categories, in the order in which they run. -/
def allRules : List Rule :=
  all.flatMap rules

theorem forall₂_finds (c : Category) :
    List.Forall₂ (fun own r => r.Finds fun i => i.title ∈ own) c.titles c.rules :=
  c.forall₂_reportsUnder.imp fun _ _ h _ _ hi => (h hi).2

theorem apartBy_allRules : Rule.ApartBy ruleTitles allRules where
  finds := List.rel_append seo.forall₂_finds (List.rel_append accessibility.forall₂_finds
    (List.rel_append structural.forall₂_finds
      (List.rel_append performance.forall₂_finds .nil)))
  disjoint := (List.nodup_flatten.mp nodup_ruleTitles).2

theorem apartBy_rules (c : Category) : Rule.ApartBy c.titles c.rules where
  finds := c.forall₂_finds
  disjoint := by
    have hpart : c.titles.Sublist ruleTitles :=
      List.sublist_flatten_of_mem (List.mem_map_of_mem c.mem_all)
    exact apartBy_allRules.disjoint.sublist hpart

end Category

namespace Issue

variable {es : List Issue} {found : Option Issue} {own : List String}

/-- What is found under all of the titles is also all that is found under some of them. -/
theorem filter_title (h : es.filter (own.contains ·.title) = found.toList) {f : String → Bool}
    (hf : ∀ t, f t → t ∈ own) : es.filter (f ·.title) = found.toList.filter (f ·.title) := by
  rw [← h, List.filter_filter]
  refine List.filter_congr fun i _ => ?_
  rw [Bool.eq_iff_iff, Bool.and_eq_true]
  exact ⟨fun hi => ⟨hi, List.contains_iff_mem.mpr (hf _ hi)⟩, fun hi => hi.1⟩

theorem mem_iff_of_title (h : es.filter (own.contains ·.title) = found.toList) {i : Issue}
    (hi : i.title ∈ own) : i ∈ es ↔ i ∈ found := by
  rw [Option.mem_def, ← Option.mem_toList, ← h, List.mem_filter, List.contains_iff_mem,
    and_iff_left hi]

theorem mem_map_title_iff (h : es.filter (own.contains ·.title) = found.toList) {t : String}
    (ht : t ∈ own) : t ∈ es.map (·.title) ↔ ∃ i ∈ found, i.title = t := by
  rw [List.mem_map]
  refine exists_congr fun i => and_congr_left ?_
  rintro rfl
  exact mem_iff_of_title h ht

/-- The issue about something missing is there if and only if the page lacks it. -/
theorem mem_map_title_lacking {has : Page → Bool} {issue : Issue} {p : Page}
    (h : es.filter (own.contains ·.title) = (Rule.lacking has issue p).toList)
    (ht : issue.title ∈ own) : issue.title ∈ es.map (·.title) ↔ ¬ has p := by
  rw [mem_map_title_iff h ht, Rule.lacking]
  cases has p <;> simp

end Issue

namespace Rule

/-! ## The rule on main headings -/

theorem mainHeading_eq (p : Page) :
    mainHeading p = if mainHeadings p = 0 then some mainHeadingMissing
      else if 1 < mainHeadings p then some (mainHeadingsMany (mainHeadings p))
      else none := by
  rw [mainHeading]
  rcases mainHeadings p with _ | _ | n
  · rfl
  · rfl
  · rw [if_neg (by omega), if_pos (by omega)]
    rfl

theorem mem_map_title_mainHeading {es : List Issue} {own : List String} {p : Page}
    (h : es.filter (own.contains ·.title) = (mainHeading p).toList)
    (ht : "Missing H1 Heading" ∈ own) :
    "Missing H1 Heading" ∈ es.map (·.title) ↔ mainHeadings p = 0 := by
  rw [Issue.mem_map_title_iff h ht, mainHeading_eq]
  split
  · simp [mainHeadingMissing, *]
  · split <;> simp [mainHeadingsMany, *]

end Rule

namespace Page

variable {own : List String} {r : Rule}

/-- Of the issues in a category, those under the titles of a rule are found by that rule. -/
theorem filter_check (p : Page) (c : Category) (k : Nat) (hown : c.titles[k]? = some own)
    (hr : c.rules[k]? = some r) :
    (p.check c).filter (own.contains ·.title) = (r p).toList :=
  c.apartBy_rules.filter_filterMap p k hown hr

/-- Of all issues on a page, those under the titles of a rule are found by that rule. -/
theorem filter_evaluate (p : Page) (k : Nat) (hown : ruleTitles[k]? = some own)
    (hr : Category.allRules[k]? = some r) :
    p.evaluate.filter (own.contains ·.title) = (r p).toList := by
  have hevaluate : p.evaluate = Category.allRules.filterMap (· p) :=
    List.filterMap_flatMap.symm
  rw [hevaluate]
  exact Category.apartBy_allRules.filter_filterMap p k hown hr

end Page

end PageAudit
