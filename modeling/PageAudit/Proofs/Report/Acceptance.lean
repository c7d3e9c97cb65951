import PageAudit.Proofs.Report.Schema

/-!
# Which values are reports

A value is read as a report if it is an object that holds a report (`Report.IsValid`), and then the
report has the values that stand there, in their order (`Report.IsHeldBy`). Otherwise the errors are
what is wrong with it, place by place and each place once (`Report.ofJson_spec`).
-/

namespace PageAudit

open Checked

/-! ## Issues -/

theorem Category.ofLabel?_eq_some_iff {s : String} {c : Category} :
    ofLabel? s = some c ↔ s = c.label := by
  constructor
  · intro h
    simpa [eq_comm] using List.find?_some h
  · rintro rfl
    exact ofLabel?_label c

theorem Severity.ofLabel?_eq_some_iff {s : String} {t : Severity} :
    ofLabel? s = some t ↔ s = t.label := by
  constructor
  · intro h
    simpa [eq_comm] using List.find?_some h
  · rintro rfl
    exact ofLabel?_label t

namespace Issue

/-- An object that has the five keys of an issue and no other, with the values of the issue. -/
structure IsHeldBy (i : Issue) (ms : List (String × Json)) : Prop where
  keys_subset : ∀ m ∈ ms, m.1 ∈ keys
  category : ms.lookup "category" = some (.str i.category.label)
  severity : ms.lookup "severity" = some (.str i.severity.label)
  title : ms.lookup "title" = some (.str i.title)
  description : ms.lookup "description" = some (.str i.description)
  suggestion : ms.lookup "suggestion" = some (.str i.suggestion)
  isFilled : i.IsFilled

/-- An object that has the five keys of an issue and no other, with values that an issue may
have. -/
structure IsValid (ms : List (String × Json)) : Prop where
  keys_subset : ∀ m ∈ ms, m.1 ∈ keys
  category : ∃ c : Category, ms.lookup "category" = some (.str c.label)
  severity : ∃ s : Severity, ms.lookup "severity" = some (.str s.label)
  texts : ∀ key ∈ ["title", "description", "suggestion"],
    ∃ s, ms.lookup key = some (.str s) ∧ s ≠ ""

theorem isValid_iff {ms : List (String × Json)} : IsValid ms ↔ ∃ i : Issue, i.IsHeldBy ms := by
  constructor
  · rintro ⟨hkeys, ⟨c, hc⟩, ⟨s, hs⟩, htexts⟩
    obtain ⟨title, htitle, htitle'⟩ := htexts "title" (by simp)
    obtain ⟨description, hdescription, hdescription'⟩ := htexts "description" (by simp)
    obtain ⟨suggestion, hsuggestion, hsuggestion'⟩ := htexts "suggestion" (by simp)
    exact ⟨⟨c, s, title, description, suggestion⟩, hkeys, hc, hs, htitle, hdescription,
      hsuggestion, htitle', hdescription', hsuggestion'⟩
  · rintro ⟨i, h⟩
    obtain ⟨htitle, hdescription, hsuggestion⟩ := h.isFilled
    refine ⟨h.keys_subset, ⟨_, h.category⟩, ⟨_, h.severity⟩, ?_⟩
    simp only [List.forall_mem_cons]
    exact ⟨⟨_, h.title, htitle⟩, ⟨_, h.description, hdescription⟩, ⟨_, h.suggestion, hsuggestion⟩,
      by simp⟩

theorem exists_forall₂_iff {α β : Type} {R : α → β → Prop} : ∀ {as : List α},
    (∃ bs, List.Forall₂ R as bs) ↔ ∀ a ∈ as, ∃ b, R a b
  | [] => by simp
  | a :: as => by
    rw [List.forall_mem_cons, ← exists_forall₂_iff]
    constructor
    · rintro ⟨_, _ | ⟨h, hs⟩⟩
      exact ⟨⟨_, h⟩, _, hs⟩
    · rintro ⟨⟨b, h⟩, bs, hs⟩
      exact ⟨b :: bs, .cons h hs⟩

theorem exists_forall₂_isHeldBy_iff {xs : List Json} :
    (∃ is : List Issue, List.Forall₂ (fun x i => ∃ ms, x = .obj ms ∧ i.IsHeldBy ms) xs is)
      ↔ ∀ x ∈ xs, ∃ ms, x = .obj ms ∧ IsValid ms := by
  rw [exists_forall₂_iff]
  refine forall₂_congr fun x _ => ?_
  simp only [isValid_iff, exists_comm (α := Issue), exists_and_left]

theorem ofJson_eq_ok_iff {x : Json} {i : Issue} :
    ofJson x = .ok i ↔ ∃ ms, x = .obj ms ∧ i.IsHeldBy ms := by
  cases x with
  | obj ms =>
    simp only [ofJson, map_eq_ok_iff, both_eq_ok_iff, Json.required_eq_ok_iff,
      Json.word_eq_ok_iff, Json.nonEmptyText_eq_ok_iff, Json.noOther_eq_ok_iff,
      Category.ofLabel?_eq_some_iff, Severity.ofLabel?_eq_some_iff]
    constructor
    · rintro ⟨_, ⟨⟨_, hc, _, rfl, rfl⟩, ⟨_, hs, _, rfl, rfl⟩, ⟨_, ht, rfl, ht'⟩, ⟨_, hd, rfl, hd'⟩,
        ⟨_, hg, rfl, hg'⟩, hkeys⟩, rfl⟩
      exact ⟨ms, rfl, hkeys, hc, hs, ht, hd, hg, ht', hd', hg'⟩
    · rintro ⟨_, ⟨⟩, h⟩
      obtain ⟨htitle, hdescription, hsuggestion⟩ := h.isFilled
      exact ⟨(i.category, i.severity, i.title, i.description, i.suggestion, ()),
        ⟨⟨_, h.category, _, rfl, rfl⟩, ⟨_, h.severity, _, rfl, rfl⟩, ⟨_, h.title, rfl, htitle⟩,
          ⟨_, h.description, rfl, hdescription⟩, ⟨_, h.suggestion, rfl, hsuggestion⟩,
          h.keys_subset⟩, rfl⟩
  | _ => simp [ofJson, fail]

theorem isProper_ofJson (x : Json) : (ofJson x).IsProper := by
  cases x with
  | obj ms =>
    have hword {α : Type} (words : List String) (find? : String → Option α) (key : String) :
        (Json.required key (Json.word words find?) ms).IsProper :=
      Json.isProper_required (Json.isProper_word words find?) key ms
    have htext (key : String) : (Json.required key Json.nonEmptyText ms).IsProper :=
      Json.isProper_required Json.isProper_nonEmptyText key ms
    exact ((hword _ _ _).both <| (hword _ _ _).both <| (htext _).both <| (htext _).both <|
      (htext _).both (Json.isProper_noOther keys ms)).map _
  | _ => exact .fail _

end Issue

/-! ## Reports -/

namespace Report

/-- An object that has the values of the report under its keys, where a key without a value stands
for none. -/
structure IsHeldBy (r : Report) (ms : List (String × Json)) : Prop where
  source : ms.lookup "source" = none ∧ r.source = none
    ∨ ms.lookup "source" = some .null ∧ r.source = none
    ∨ ∃ s, ms.lookup "source" = some (.str s) ∧ r.source = some s
  issues : ms.lookup "issues" = none ∧ r.issues = []
    ∨ ∃ xs, ms.lookup "issues" = some (.arr xs)
      ∧ List.Forall₂ (fun x i => ∃ ms, x = .obj ms ∧ i.IsHeldBy ms) xs r.issues
  warnings : ms.lookup "warnings" = none ∧ r.warnings = []
    ∨ ms.lookup "warnings" = some (.strs r.warnings)

/-- An object in which the values under the keys of a report are such that a report may have. -/
structure IsValid (ms : List (String × Json)) : Prop where
  source : ms.lookup "source" = none ∨ ms.lookup "source" = some .null
    ∨ ∃ s, ms.lookup "source" = some (.str s)
  issues : ms.lookup "issues" = none
    ∨ ∃ xs, ms.lookup "issues" = some (.arr xs) ∧ ∀ x ∈ xs, ∃ ms, x = .obj ms ∧ Issue.IsValid ms
  warnings : ms.lookup "warnings" = none
    ∨ ∃ ws, ms.lookup "warnings" = some (.strs ws)

theorem isValid_iff {ms : List (String × Json)} : IsValid ms ↔ ∃ r : Report, r.IsHeldBy ms := by
  constructor
  · rintro ⟨hsource, hissues, hwarnings⟩
    obtain ⟨source, hsource⟩ : ∃ source : Option String,
        ms.lookup "source" = none ∧ source = none ∨ ms.lookup "source" = some .null ∧ source = none
          ∨ ∃ s, ms.lookup "source" = some (.str s) ∧ source = some s := by
      rcases hsource with h | h | ⟨s, h⟩
      · exact ⟨none, .inl ⟨h, rfl⟩⟩
      · exact ⟨none, .inr (.inl ⟨h, rfl⟩)⟩
      · exact ⟨some s, .inr (.inr ⟨s, h, rfl⟩)⟩
    obtain ⟨issues, hissues⟩ : ∃ issues : List Issue, ms.lookup "issues" = none ∧ issues = []
        ∨ ∃ xs, ms.lookup "issues" = some (.arr xs)
          ∧ List.Forall₂ (fun x i => ∃ ms, x = .obj ms ∧ i.IsHeldBy ms) xs issues := by
      rcases hissues with h | ⟨xs, h, hvalid⟩
      · exact ⟨[], .inl ⟨h, rfl⟩⟩
      · obtain ⟨issues, hforall⟩ := Issue.exists_forall₂_isHeldBy_iff.mpr hvalid
        exact ⟨issues, .inr ⟨xs, h, hforall⟩⟩
    obtain ⟨warnings, hwarnings⟩ : ∃ warnings : List String,
        ms.lookup "warnings" = none ∧ warnings = []
          ∨ ms.lookup "warnings" = some (.strs warnings) := by
      rcases hwarnings with h | ⟨ws, h⟩
      · exact ⟨[], .inl ⟨h, rfl⟩⟩
      · exact ⟨ws, .inr h⟩
    exact ⟨⟨source, issues, warnings⟩, hsource, hissues, hwarnings⟩
  · rintro ⟨r, hsource, hissues, hwarnings⟩
    constructor
    · rcases hsource with ⟨h, -⟩ | ⟨h, -⟩ | ⟨s, h, -⟩
      · exact .inl h
      · exact .inr (.inl h)
      · exact .inr (.inr ⟨s, h⟩)
    · rcases hissues with ⟨h, -⟩ | ⟨xs, h, hforall⟩
      · exact .inl h
      · exact .inr ⟨xs, h, Issue.exists_forall₂_isHeldBy_iff.mp ⟨_, hforall⟩⟩
    · rcases hwarnings with ⟨h, -⟩ | h
      · exact .inl h
      · exact .inr ⟨_, h⟩

theorem ofJson_eq_ok_iff {j : Json} {r : Report} :
    ofJson j = .ok r ↔ ∃ ms, j = .obj ms ∧ r.IsHeldBy ms := by
  cases j with
  | obj ms =>
    have hwarnings (xs : List Json) (ws : List String) :
        List.Forall₂ (fun x w => x = .str w) xs ws ↔ xs = ws.map .str := by
      rw [← List.forall₂_map_right_iff, List.forall₂_eq_eq_eq]
    simp only [ofJson, map_eq_ok_iff, both_eq_ok_iff, Json.optional_eq_ok_iff,
      Json.textOrNull_eq_ok_iff, Json.list_eq_ok_iff, Json.text_eq_ok_iff, hwarnings,
      Issue.ofJson_eq_ok_iff]
    constructor
    · rintro ⟨⟨source, issues, warnings⟩, ⟨hs, hi, hw⟩, rfl⟩
      refine ⟨ms, rfl, ?_, ?_, ?_⟩
      · rcases hs with h | ⟨_, h, ⟨rfl, hnone⟩ | ⟨s, rfl, hsome⟩⟩
        · exact .inl h
        · exact .inr (.inl ⟨h, hnone⟩)
        · exact .inr (.inr ⟨s, h, hsome⟩)
      · rcases hi with h | ⟨_, h, xs, rfl, hforall⟩
        · exact .inl h
        · exact .inr ⟨xs, h, hforall⟩
      · rcases hw with h | ⟨_, h, _, rfl, rfl⟩
        · exact .inl h
        · exact .inr h
    · rintro ⟨_, ⟨⟩, hs, hi, hw⟩
      refine ⟨(r.source, r.issues, r.warnings), ⟨?_, ?_, ?_⟩, rfl⟩
      · rcases hs with h | ⟨h, hnone⟩ | ⟨s, h, hsome⟩
        · exact .inl h
        · exact .inr ⟨_, h, .inl ⟨rfl, hnone⟩⟩
        · exact .inr ⟨_, h, .inr ⟨s, rfl, hsome⟩⟩
      · rcases hi with h | ⟨xs, h, hforall⟩
        · exact .inl h
        · exact .inr ⟨_, h, xs, rfl, hforall⟩
      · rcases hw with h | h
        · exact .inl h
        · exact .inr ⟨_, h, _, rfl, rfl⟩
  | _ => simp [ofJson, fail]

theorem isProper_ofJson (j : Json) : (ofJson j).IsProper := by
  cases j with
  | obj ms =>
    have hsource := Json.isProper_optional Json.isProper_textOrNull "source" none ms
    have hissues :=
      Json.isProper_optional (Json.isProper_list Issue.isProper_ofJson) "issues" [] ms
    have hwarnings :=
      Json.isProper_optional (Json.isProper_list Json.isProper_text) "warnings" [] ms
    exact (hsource.both (hissues.both hwarnings)).map _
  | _ => exact .fail _

/-- When a value is read as a report, as which one, and what is said of it if it is not. No place
is named twice, unless an issue has a key twice. -/
theorem ofJson_spec (j : Json) :
    ((∃ r, ofJson j = .ok r) ↔ ∃ ms, j = .obj ms ∧ IsValid ms)
      ∧ (∀ r, ofJson j = .ok r ↔ ∃ ms, j = .obj ms ∧ r.IsHeldBy ms)
      ∧ (∀ vs, ofJson j = .error vs ↔ vs ≠ [] ∧ vs = j.violationsAt (places j))
      ∧ ((∀ x ∈ (j.field? "issues").elim [] Json.items, (x.members.map Prod.fst).Nodup) →
        ∀ vs, ofJson j = .error vs → (vs.map Violation.path).Nodup) := by
  have herror (vs : List Violation) :
      ofJson j = .error vs ↔ vs ≠ [] ∧ vs = j.violationsAt (places j) := by
    rw [(isProper_ofJson j).eq_error_iff, violations_ofJson]
  refine ⟨?_, fun _ => ofJson_eq_ok_iff, herror, fun hkeys vs hvs => ?_⟩
  · simp only [ofJson_eq_ok_iff, isValid_iff]
    rw [exists_comm]
    simp only [exists_and_left]
  · rw [((herror vs).mp hvs).2]
    exact (nodup_places hkeys).sublist (j.map_path_violationsAt_sublist _)

/-- A source that is no text, an issue with a key missing, a word that is none of the severities, an
empty text and a key too many, an issue that is no object, and a warning that is no text. -/
theorem ofJson_spec_manyFlaws :
    let j : Json := .obj [("warnings", .arr [.str "w", .int 1]), ("more", .null),
      ("issues", .arr [.obj [("id", .int 7), ("severity", .str "fatal"), ("title", .str ""),
        ("category", .str "SEO"), ("suggestion", .str "s")], .null]), ("source", .bool true)]
    let vs : List Violation := [⟨[.key "source"], .notText⟩,
      ⟨[.key "issues", .index 0, .key "severity"], .notOneOf ["error", "warning", "info"]⟩,
      ⟨[.key "issues", .index 0, .key "title"], .tooShort⟩,
      ⟨[.key "issues", .index 0, .key "description"], .missing⟩,
      ⟨[.key "issues", .index 0, .key "id"], .unexpected⟩,
      ⟨[.key "issues", .index 1], .notRecord "Issue"⟩, ⟨[.key "warnings", .index 1], .notText⟩]
    ofJson j = .error vs ∧ (vs.map Violation.path).Nodup := by
  intro j vs
  obtain ⟨-, -, herror, hnodup⟩ := ofJson_spec j
  have hvs : ofJson j = .error vs := (herror vs).mpr ⟨List.cons_ne_nil _ _, by decide +kernel⟩
  exact ⟨hvs, hnodup (by decide) vs hvs⟩

end Report

end PageAudit
