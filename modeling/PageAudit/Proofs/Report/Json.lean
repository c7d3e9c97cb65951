import PageAudit.Proofs.Json.RoundTrip
import PageAudit.Report.Validation

/-!
# Reports as JSON

An issue is filled if none of its texts is empty. A report whose issues are filled is read back from
its JSON as it was (`Report.ofJson_toJson`), and its JSON is plain (`Report.isPlain_toJson`), so
that writing it loses nothing either.
-/

namespace PageAudit

open Json

theorem Category.ofLabel?_label (c : Category) : ofLabel? c.label = some c := by
  cases c <;> rfl

theorem Severity.ofLabel?_label (s : Severity) : ofLabel? s.label = some s := by
  cases s <;> rfl

/-- None of the texts of the issue is empty. -/
def Issue.IsFilled (i : Issue) : Prop :=
  i.title ≠ "" ∧ i.description ≠ "" ∧ i.suggestion ≠ ""

theorem Json.nonEmptyText_str {s : String} (h : s ≠ "") : nonEmptyText (.str s) = .ok s := by
  have hs : s.isEmpty = false := by simpa using h
  simp [nonEmptyText, hs]

theorem Issue.ofJson_toJson {i : Issue} (h : i.IsFilled) : ofJson i.toJson = .ok i := by
  obtain ⟨category, severity, title, description, suggestion⟩ := i
  obtain ⟨htitle, hdescription, hsuggestion⟩ := h
  simp only at htitle hdescription hsuggestion
  simp [ofJson, toJson, required, word, noOther, keys, Checked.under, Checked.both,
    List.lookup_cons, Json.str?, nonEmptyText_str, htitle, hdescription, hsuggestion,
    Category.ofLabel?_label, Severity.ofLabel?_label, Except.map]

/-- Checking the items of a list one by one undoes writing them one by one. -/
theorem Checked.each_map {α β : Type} {check : β → Checked α} {write : α → β} :
    ∀ {as : List α} (n : Nat), (∀ a ∈ as, check (write a) = .ok a) →
      each check n (as.map write) = .ok as
  | [], _, _ => rfl
  | a :: as, n, h => by
    have hhead := h a List.mem_cons_self
    have htail := each_map (n + 1) fun b hb => h b (List.mem_cons_of_mem a hb)
    simp only [List.map_cons, each, hhead, htail, under, both]

namespace Report

theorem ofJson_toJson {r : Report} (h : ∀ i ∈ r.issues, i.IsFilled) : ofJson r.toJson = .ok r := by
  obtain ⟨source, issues, warnings⟩ := r
  have hissues : Json.list Issue.ofJson (.arr (issues.map Issue.toJson)) = .ok issues :=
    Checked.each_map 0 fun i hi => Issue.ofJson_toJson (h i hi)
  have hwarnings : Json.list Json.text (.strs warnings) = .ok warnings :=
    Checked.each_map 0 fun _ _ => rfl
  cases source <;>
    simp [ofJson, toJson, Json.optional, List.lookup_cons, hissues, hwarnings, textOrNull,
      Json.text, Checked.under, Checked.both, Except.map]

end Report

theorem Json.isPlain_strs (ss : List String) : IsPlain (.strs ss) := by
  refine .arr fun x hx => ?_
  obtain ⟨s, -, rfl⟩ := List.mem_map.mp hx
  exact .str s

theorem Issue.isPlain_toJson (i : Issue) : IsPlain i.toJson := by
  refine .obj (by simp) ?_
  simp [IsPlain.str]

theorem Report.isPlain_toJson (r : Report) : IsPlain r.toJson := by
  obtain ⟨source, issues, warnings⟩ := r
  have hissues : IsPlain (.arr (issues.map Issue.toJson)) := by
    refine .arr fun x hx => ?_
    obtain ⟨i, -, rfl⟩ := List.mem_map.mp hx
    exact i.isPlain_toJson
  have hrest : IsPlain (.obj [("issues", .arr (issues.map Issue.toJson)),
      ("warnings", .strs warnings)]) :=
    .obj (by simp) (by simp [hissues, isPlain_strs])
  cases source with
  | none => exact .cons (by simp) .null hrest
  | some s => exact .cons (by simp) (.str s) hrest

end PageAudit
