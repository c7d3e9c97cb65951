import PageAudit.Proofs.Dom.Edit
import PageAudit.Proofs.Report.Count
import PageAudit.Proofs.Rule.Titled

/-!
# Pages that grow at the end

Nodes put after the last node of a page leave its elements where they are and add others behind
them (`Page.startsWith_append`). What a query selects can only become more, what it selects first
stays first, and a level once skipped stays skipped. A rule that counts, or that looks for a skipped
level, therefore goes on finding its issue, with no smaller count (`Rule.Lasts`). A rule about
something missing does not come to find an issue that it did not find before (`Rule.NeverArises`).
All rules together say what becomes of the issues of a page that grows
(`Page.evaluate_append_accumulates`).
-/

namespace PageAudit

/-! ## Pages -/

namespace Page

/-- The elements of the page begin with those of another. -/
def StartsWith (p' p : Page) : Prop :=
  p.elements <+: p'.elements

theorem startsWith_append (ns ms : List Node) : StartsWith ⟨ns ++ ms⟩ ⟨ns⟩ :=
  ⟨_, (Node.elementsOf_append [] ns ms 0).symm⟩

namespace StartsWith

variable {p p' : Page} (h : p'.StartsWith p)
include h

theorem queryAll (q : Query) : p.queryAll q <+: p'.queryAll q :=
  h.filter q.accepts

theorem first?_eq_some {q : Query} {e : Element} (he : p.first? q = some e) :
    p'.first? q = some e :=
  h.find?_eq_some he

theorem head?_eq_some {e : Element} (he : p.head? = some e) : p'.head? = some e :=
  h.find?_eq_some he

theorem exists? {q : Query} (hq : p.exists? q) : p'.exists? q := by
  obtain ⟨e, he⟩ := Option.isSome_iff_exists.mp hq
  exact Option.isSome_iff_exists.mpr ⟨e, h.first?_eq_some he⟩

end StartsWith

end Page

/-! ## Titles -/

/-- The titles of issues that report a count of what breaks a rule. -/
def countedTitles : List String :=
  ["Images missing Alt text", "Non-descriptive Link Text", "Multiple H1 Headings",
    "Heavy use of Inline Styles", "High Image Count", "Large Inline Scripts",
    "Render-blocking Scripts"]

/-- The titles of issues about something that breaks a rule. -/
def lastingTitles : List String :=
  "Skipped Heading Levels" :: countedTitles

/-- The titles of issues about something missing. -/
def missingTitles : List String :=
  ["Missing <title> tag", "Missing Meta Description", "Missing Viewport Meta Tag",
    "No Semantic Landmarks Found", "Missing H1 Heading"]

/-- The titles of issues about the length of the title. -/
def titleLengthTitles : List String :=
  ["Title too short", "Title too long"]

namespace Issue

/-- The second issue has the title of the first and, if that title goes with a count, reports at
least as great a count. -/
def IsContinuedBy (i j : Issue) : Prop :=
  j.title = i.title
    ∧ (i.title ∈ countedTitles → ∃ m n, i.count? = some m ∧ j.count? = some n ∧ m ≤ n)

theorem IsContinuedBy.refl_of_not_mem {i : Issue} (h : i.title ∉ countedTitles) :
    i.IsContinuedBy i :=
  ⟨rfl, fun hmem => absurd hmem h⟩

end Issue

/-! ## Rules -/

namespace Rule

/-- Of the issues that last, the rule goes on finding each as the page grows. -/
def Lasts (r : Rule) : Prop :=
  ∀ ⦃p p' : Page⦄, p'.StartsWith p → ∀ ⦃i : Issue⦄, r p = some i → i.title ∈ lastingTitles →
    ∃ j, r p' = some j ∧ i.IsContinuedBy j

/-- Of the issues about something missing, the rule finds none as the page grows that it did not
find before. -/
def NeverArises (r : Rule) : Prop :=
  ∀ ⦃p p' : Page⦄, p'.StartsWith p → ∀ ⦃i : Issue⦄, r p' = some i → i.title ∈ missingTitles →
    r p = some i

theorem lasts_of_finds {r : Rule} (h : r.Finds (·.title ∉ lastingTitles)) : r.Lasts :=
  fun _ _ _ _ hi hmem => absurd hmem (h hi)

theorem neverArises_of_finds {r : Rule} (h : r.Finds (·.title ∉ missingTitles)) : r.NeverArises :=
  fun _ _ _ _ hi hmem => absurd hmem (h hi)

/-- The count can only become greater as the page grows. -/
def Grows (count : Page → Nat) : Prop :=
  ∀ ⦃p p' : Page⦄, p'.StartsWith p → count p ≤ count p'

theorem grows_length (q : Query) : Grows fun p => (p.queryAll q).length :=
  fun _ _ h => (h.queryAll q).length_le

theorem grows_countP (q : Query) (f : Element → Bool) : Grows fun p => (p.queryAll q).countP f :=
  fun _ _ h => (h.queryAll q).countP_le

theorem grows_blockingScripts : Grows blockingScripts := by
  intro p p' h
  cases hhead : p.head? with
  | none => simp only [blockingScripts, hhead, Nat.zero_le]
  | some head =>
    -- The first head section stays the first, and nothing is added to it.
    simp only [blockingScripts, hhead, h.head?_eq_some hhead, Page.queryAll, Page.scope, le_refl]

theorem lasts_exceeding {limit : Nat} {count : Page → Nat} {issue : Nat → Issue}
    (hcount : Grows count) (htitle : ∀ m n, (issue m).title = (issue n).title)
    (hissue : ∀ n, (issue n).count? = some n) : Lasts (exceeding limit count issue) := by
  intro p p' h i hi _
  have hle : count p ≤ count p' := hcount h
  simp only [exceeding] at hi ⊢
  split at hi
  · cases hi
    refine ⟨issue (count p'), if_pos (by omega), htitle _ _, fun _ => ?_⟩
    exact ⟨count p, count p', hissue _, hissue _, hle⟩
  · cases hi

theorem neverArises_lacking {has : Page → Bool} {issue : Issue}
    (hhas : ∀ ⦃p p' : Page⦄, p'.StartsWith p → has p → has p') :
    NeverArises (lacking has issue) := by
  intro p p' h i hi _
  simp only [lacking] at hi ⊢
  split at hi
  · cases hi
  · rename_i hnot
    rw [if_neg fun hp => hnot (hhas h hp), hi]

theorem hasMeta_of_startsWith (name : String) ⦃p p' : Page⦄ (h : p'.StartsWith p)
    (hp : hasMeta name p) : hasMeta name p' :=
  h.exists? hp

theorem hasLandmark_of_startsWith ⦃p p' : Page⦄ (h : p'.StartsWith p) (hp : hasLandmark p) :
    hasLandmark p' := by
  obtain ⟨name, hname, hexists⟩ := List.any_eq_true.mp hp
  exact List.any_eq_true.mpr ⟨name, hname, h.exists? hexists⟩

/-- A level skipped before is skipped whatever comes after. -/
theorem skips_of_isPrefix :
    ∀ {previous : Nat} {levels levels' : List Nat}, levels <+: levels' → skips previous levels →
      skips previous levels'
  | _, [], _, _, h => by simp [skips] at h
  | previous, level :: levels, _, ⟨rest, rfl⟩, h => by
    simp only [List.cons_append, skips, Bool.or_eq_true] at h ⊢
    rcases h with h | h
    · exact .inl h
    · exact .inr (skips_of_isPrefix (List.prefix_append levels rest) h)

theorem lasts_headingOrder : Lasts headingOrder := by
  intro p p' h i hi _
  have hskips : hasSkippedLevel p → hasSkippedLevel p' :=
    skips_of_isPrefix ((h.queryAll _).map _)
  simp only [headingOrder, lacking] at hi ⊢
  split at hi
  · cases hi
  · rename_i hp
    have hp' : hasSkippedLevel p' := hskips (by simpa using hp)
    cases hi
    exact ⟨_, if_neg (by simp [hp']), .refl_of_not_mem (by decide)⟩

theorem count?_mainHeadingsMany (n : Nat) : (mainHeadingsMany n).count? = some n :=
  Issue.count?_of_found rfl rfl

theorem lasts_mainHeading : Lasts mainHeading := by
  intro p p' h i hi hmem
  have hle : mainHeadings p ≤ mainHeadings p' := grows_length _ h
  rw [mainHeading_eq] at hi ⊢
  split at hi
  · cases hi
    exact absurd hmem (by decide)
  · split at hi
    · cases hi
      refine ⟨mainHeadingsMany (mainHeadings p'), ?_, rfl, fun _ => ?_⟩
      · rw [if_neg (by omega), if_pos (by omega)]
      · exact ⟨_, _, count?_mainHeadingsMany _, count?_mainHeadingsMany _, hle⟩
    · cases hi

theorem neverArises_mainHeading : NeverArises mainHeading := by
  intro p p' h i hi hmem
  have hle : mainHeadings p ≤ mainHeadings p' := grows_length _ h
  rw [mainHeading_eq] at hi ⊢
  split at hi
  · rw [if_pos (by omega), hi]
  · split at hi
    · cases hi
      simp [mainHeadingsMany, missingTitles] at hmem
    · cases hi

theorem title_of_titleIssue? {n : Nat} {i : Issue} (h : titleIssue? n = some i) :
    i.title ∈ titleLengthTitles := by
  simp only [titleIssue?] at h
  split at h
  · cases h
    simp [titleTooShort, titleLengthTitles]
  · split at h
    · cases h
      simp [titleTooLong, titleLengthTitles]
    · cases h

theorem title_eq_of_first? {p p' : Page} {e : Element} (h : p'.StartsWith p)
    (he : p.first? (.named "title") = some e) : title p' = title p := by
  rw [title, title, he, h.first?_eq_some he]

theorem neverArises_title : NeverArises title := by
  intro p p' h i hi hmem
  cases hfirst : p.first? (.named "title") with
  | some e => rwa [← title_eq_of_first? h hfirst]
  | none =>
    simp only [title, hfirst] at hi ⊢
    split at hi
    · exact hi
    · have hlength := title_of_titleIssue? hi
      have hdisjoint : ∀ t ∈ titleLengthTitles, t ∉ missingTitles := by decide
      exact absurd hmem (hdisjoint _ hlength)

end Rule

open Rule in
theorem Category.lasts_of_mem_rules (c : Category) : ∀ r ∈ c.rules, r.Lasts := by
  have htitle : title.Lasts := lasts_of_finds (finds_title (by decide)
    (fun n => by simp [titleTooShort, lastingTitles, countedTitles])
    fun n => by simp [titleTooLong, lastingTitles, countedTitles])
  cases c <;> simp only [rules, List.mem_cons, List.not_mem_nil, or_false] <;>
    rintro r (rfl | rfl | rfl)
  · exact htitle
  · exact lasts_of_finds (finds_lacking (by decide))
  · exact lasts_of_finds (finds_lacking (by decide))
  · exact lasts_exceeding (grows_countP _ _) (fun _ _ => rfl)
      fun n => Issue.count?_of_found rfl rfl
  · exact lasts_exceeding (grows_countP _ _) (fun _ _ => rfl)
      fun n => Issue.count?_of_found rfl rfl
  · exact lasts_of_finds (finds_lacking (by decide))
  · exact lasts_mainHeading
  · exact lasts_headingOrder
  · exact lasts_exceeding (grows_length _) (fun _ _ => rfl)
      fun n => Issue.count?_of_found rfl rfl
  · exact lasts_exceeding (grows_length _) (fun _ _ => rfl)
      fun n => Issue.count?_of_description rfl "Page contains".toList rfl rfl rfl
  · exact lasts_exceeding (grows_countP _ _) (fun _ _ => rfl)
      fun n => Issue.count?_of_found rfl rfl
  · exact lasts_exceeding grows_blockingScripts (fun _ _ => rfl)
      fun n => Issue.count?_of_found rfl rfl

open Rule in
theorem Category.neverArises_of_mem_rules (c : Category) : ∀ r ∈ c.rules, r.NeverArises := by
  have hcounted : ∀ {limit : Nat} {count : Page → Nat} {issue : Nat → Issue},
      (∀ n, (issue n).title ∉ missingTitles) → NeverArises (exceeding limit count issue) :=
    fun h => neverArises_of_finds (finds_exceeding h)
  cases c <;> simp only [rules, List.mem_cons, List.not_mem_nil, or_false] <;>
    rintro r (rfl | rfl | rfl)
  · exact neverArises_title
  · exact neverArises_lacking (hasMeta_of_startsWith "description")
  · exact neverArises_lacking (hasMeta_of_startsWith "viewport")
  · exact hcounted fun _ => by simp [missingTitles]
  · exact hcounted fun _ => by simp [missingTitles]
  · exact neverArises_lacking hasLandmark_of_startsWith
  · exact neverArises_mainHeading
  · exact neverArises_of_finds (finds_lacking (by decide))
  · exact hcounted fun _ => by simp [missingTitles]
  · exact hcounted fun _ => by simp [missingTitles]
  · exact hcounted fun _ => by simp [missingTitles]
  · exact hcounted fun _ => by simp [missingTitles]

namespace Page

theorem mem_evaluate_iff {p : Page} {i : Issue} :
    i ∈ p.evaluate ↔ ∃ c : Category, ∃ r ∈ c.rules, r p = some i := by
  simp only [evaluate, check, List.mem_flatMap, List.mem_filterMap, Category.mem_all, true_and]

/-- What is said about the length of the title is said by the rule on titles. -/
theorem filter_titleLength (p : Page) :
    p.evaluate.filter (titleLengthTitles.contains ·.title)
      = (Rule.title p).toList.filter (titleLengthTitles.contains ·.title) := by
  have hown : titleLengthTitles ⊆ ["Missing <title> tag", "Title too short", "Title too long"] := by
    decide
  exact Issue.filter_title (p.filter_evaluate 0 rfl rfl) fun t ht =>
    hown (List.contains_iff_mem.mp ht)

/-- Whatever nodes are put after the last node of a page, an issue about something that breaks a
rule is found again, with no smaller count if it has one; no issue about something missing is found
that was not found before; and if the page has a title outside templates, the same is said about
the length of its title. -/
theorem evaluate_append_accumulates (ns ms : List Node) :
    (∀ i ∈ evaluate ⟨ns⟩, i.title ∈ lastingTitles →
        ∃ j ∈ evaluate ⟨ns ++ ms⟩, j.title = i.title
          ∧ (i.title ∈ countedTitles →
              ∃ m n, i.count? = some m ∧ j.count? = some n ∧ m ≤ n))
      ∧ (∀ t ∈ missingTitles, t ∉ (evaluate ⟨ns⟩).map (·.title) →
          t ∉ (evaluate ⟨ns ++ ms⟩).map (·.title))
      ∧ ((∃ e ∈ elements ⟨ns⟩, e.name = "title" ∧ e.isLive) →
          (evaluate ⟨ns ++ ms⟩).filter (titleLengthTitles.contains ·.title)
            = (evaluate ⟨ns⟩).filter (titleLengthTitles.contains ·.title)) := by
  have hstarts := startsWith_append ns ms
  refine ⟨fun i hi hmem => ?_, fun t ht hnot hmem => ?_, fun ⟨e, he, hname, hlive⟩ => ?_⟩
  · obtain ⟨c, r, hr, hfound⟩ := mem_evaluate_iff.mp hi
    obtain ⟨j, hj, hcontinued⟩ := c.lasts_of_mem_rules r hr hstarts hfound hmem
    exact ⟨j, mem_evaluate_iff.mpr ⟨c, r, hr, hj⟩, hcontinued⟩
  · obtain ⟨i, hi, rfl⟩ := List.mem_map.mp hmem
    obtain ⟨c, r, hr, hfound⟩ := mem_evaluate_iff.mp hi
    have hbefore := c.neverArises_of_mem_rules r hr hstarts hfound ht
    exact hnot (List.mem_map_of_mem (mem_evaluate_iff.mpr ⟨c, r, hr, hbefore⟩))
  · have haccepts : (Query.named "title").accepts e := by
      simp [Query.accepts, Query.named, hname, hlive]
    obtain ⟨first, hfirst⟩ : ∃ first, (⟨ns⟩ : Page).first? (.named "title") = some first :=
      Option.isSome_iff_exists.mp (List.find?_isSome.mpr ⟨e, he, haccepts⟩)
    rw [filter_titleLength, filter_titleLength, Rule.title_eq_of_first? hstarts hfirst]

/-- A short title and an image without an alternative text, which are followed by another image,
a long title and a heading of the second level. -/
theorem evaluate_photo_accumulates :
    let ns : List Node := [.element "title" [] [.text .prose "Photos"], .element "img" [] []]
    let ms : List Node := [.element "div" [] [.element "img" [] []],
      .element "title" [] [.text .prose "Photos of the summer"], .element "h2" [] []]
    let i : Issue := {
      category := .accessibility
      severity := .error
      title := "Images missing Alt text"
      description := "Found 1 <img> tag(s) without an alt attribute."
      suggestion := "Add descriptive alt attributes to all images for screen readers." }
    (i ∈ evaluate ⟨ns⟩ ∧ i.title ∈ lastingTitles ∧ i.title ∈ countedTitles
        ∧ ∃ j ∈ evaluate ⟨ns ++ ms⟩, j.title = i.title
          ∧ ∃ m n, i.count? = some m ∧ j.count? = some n ∧ m ≤ n)
      ∧ ("Missing <title> tag" ∈ missingTitles
        ∧ "Missing <title> tag" ∉ (evaluate ⟨ns⟩).map (·.title)
        ∧ "Missing <title> tag" ∉ (evaluate ⟨ns ++ ms⟩).map (·.title))
      ∧ (∃ e ∈ elements ⟨ns⟩, e.name = "title" ∧ e.isLive)
      ∧ (evaluate ⟨ns ++ ms⟩).filter (titleLengthTitles.contains ·.title)
          = (evaluate ⟨ns⟩).filter (titleLengthTitles.contains ·.title) := by
  intro ns ms i
  have hi : i ∈ evaluate ⟨ns⟩ := by decide +kernel
  have hlasting : i.title ∈ lastingTitles := by decide
  have hcounted : i.title ∈ countedTitles := by decide
  have hmissing : "Missing <title> tag" ∈ missingTitles := by decide
  have hnot : "Missing <title> tag" ∉ (evaluate ⟨ns⟩).map (·.title) := by decide +kernel
  have htitle : ∃ e ∈ elements ⟨ns⟩, e.name = "title" ∧ e.isLive :=
    ⟨_, List.mem_cons_self, rfl, rfl⟩
  obtain ⟨hlasts, harises, hlength⟩ := evaluate_append_accumulates ns ms
  obtain ⟨j, hj, hsame, hcount⟩ := hlasts i hi hlasting
  exact ⟨⟨hi, hlasting, hcounted, j, hj, hsame, hcount hcounted⟩,
    ⟨hmissing, hnot, harises _ hmissing hnot⟩, htitle, hlength htitle⟩

end Page

end PageAudit
