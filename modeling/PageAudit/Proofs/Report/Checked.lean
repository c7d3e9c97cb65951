import Mathlib.Data.List.Forall2
import PageAudit.Proofs.Report.Json

/-!
# How checks are put together

For each way of putting checks together there is a lemma on when the whole succeeds, with which
value (`eq_ok_iff`), and one on its violations. Violations add up in the order of the parts, each at
the place of its part (`Violation.under`), and there is one at least whenever a check fails
(`Checked.IsProper`).
-/

namespace PageAudit

/-- The violation as one of a whole in which the value is found by this step. -/
def Violation.under (step : PathStep) (v : Violation) : Violation :=
  { v with path := step :: v.path }

namespace Checked

variable {α β γ : Type} {x : Checked α} {y : Checked β} {a : α} {b : β} {step : PathStep}

/-- A check that fails says why. -/
def IsProper (x : Checked α) : Prop :=
  ∀ vs, x = .error vs → vs ≠ []

theorem IsProper.ok (a : α) : IsProper (.ok a) := by
  rintro vs ⟨⟩

theorem IsProper.fail (flaw : Flaw) : IsProper (fail flaw : Checked α) := by
  rintro _ ⟨⟩
  exact List.cons_ne_nil _ _

theorem IsProper.eq_error_iff (h : x.IsProper) (vs : List Violation) :
    x = .error vs ↔ vs ≠ [] ∧ vs = x.violations := by
  rcases x with us | a
  · constructor
    · rintro ⟨⟩
      exact ⟨h _ rfl, rfl⟩
    · rintro ⟨-, rfl⟩
      rfl
  · simp [violations]

/-! ## Values within values -/

theorem under_eq_ok_iff : x.under step = .ok a ↔ x = .ok a := by
  cases x <;> simp [under]

theorem violations_under (step : PathStep) (x : Checked α) :
    (x.under step).violations = x.violations.map (Violation.under step) := by
  cases x <;> rfl

theorem IsProper.under (h : x.IsProper) : (x.under step).IsProper := by
  rcases x with vs | a
  · rintro _ ⟨⟩
    simpa using h vs rfl
  · exact .ok a

theorem violations_map (f : α → β) (x : Checked α) : violations (x.map f) = x.violations := by
  cases x <;> rfl

theorem IsProper.map (h : x.IsProper) (f : α → β) : IsProper (x.map f) := by
  rcases x with vs | a
  · rintro _ ⟨⟩
    exact h vs rfl
  · exact .ok (f a)

theorem map_eq_ok_iff {f : α → β} : x.map f = .ok b ↔ ∃ a, x = .ok a ∧ f a = b := by
  cases x <;> simp [Except.map]

/-! ## Values side by side -/

theorem both_eq_ok_iff {p : α × β} : x.both y = .ok p ↔ x = .ok p.1 ∧ y = .ok p.2 := by
  obtain ⟨a, b⟩ := p
  cases x <;> cases y <;> simp [both]

theorem violations_both (x : Checked α) (y : Checked β) :
    (x.both y).violations = x.violations ++ y.violations := by
  cases x <;> cases y <;> rfl

theorem IsProper.both (hx : x.IsProper) (hy : y.IsProper) : (x.both y).IsProper := by
  rcases x with us | a
  · rintro _ ⟨⟩ hnil
    exact hx us rfl (List.append_eq_nil_iff.mp hnil).1
  · rcases y with vs | b
    · rintro _ ⟨⟩
      exact hy vs rfl
    · exact .ok (a, b)

/-! ## Items of a list -/

variable {check : α → Checked β}

theorem each_cons (a : α) (as : List α) (n : Nat) :
    each check n (a :: as)
      = (((check a).under (.index n)).both (each check (n + 1) as)).map fun p => p.1 :: p.2 := by
  rw [each]
  split <;> rename_i heq <;> rw [heq] <;> rfl

theorem each_eq_ok_iff : ∀ {as : List α} {bs : List β} {n : Nat},
    each check n as = .ok bs ↔ List.Forall₂ (fun a b => check a = .ok b) as bs
  | [], bs, n => by
    rw [each, List.forall₂_nil_left_iff, Except.ok.injEq, eq_comm]
  | a :: as, bs, n => by
    simp only [each_cons, map_eq_ok_iff, both_eq_ok_iff, under_eq_ok_iff, each_eq_ok_iff,
      List.forall₂_cons_left_iff, Prod.exists, and_assoc, eq_comm (b := bs)]

theorem violations_each : ∀ (as : List α) (n : Nat),
    (each check n as).violations = (as.zipIdx n).flatMap fun p =>
      (check p.1).violations.map (Violation.under (.index p.2))
  | [], n => rfl
  | a :: as, n => by
    rw [each_cons, violations_map, violations_both, violations_under, violations_each,
      List.zipIdx_cons, List.flatMap_cons]

theorem IsProper.each (h : ∀ a, (check a).IsProper) : ∀ (as : List α) (n : Nat),
    (each check n as).IsProper
  | [], n => .ok []
  | a :: as, n => by
    rw [each_cons]
    exact ((h a).under.both (IsProper.each h as (n + 1))).map _

end Checked

namespace Json

open Checked

variable {α : Type} {check : Json → Checked α} {a d : α} {as : List α} {j : Json} {key : String}
  {ms : List (String × Json)} {s : String}

/-! ## Single values -/

theorem text_eq_ok_iff : text j = .ok s ↔ j = .str s := by
  cases j <;> simp [text, fail]

theorem nonEmptyText_eq_ok_iff : nonEmptyText j = .ok s ↔ j = .str s ∧ s ≠ "" := by
  constructor
  · intro h
    cases j with
    | str t =>
      by_cases ht : t = ""
      · subst ht
        cases h
      · rw [nonEmptyText_str ht] at h
        cases h
        exact ⟨rfl, ht⟩
    | _ => cases h
  · rintro ⟨rfl, hs⟩
    exact nonEmptyText_str hs

theorem textOrNull_eq_ok_iff {o : Option String} :
    textOrNull j = .ok o ↔ j = .null ∧ o = none ∨ ∃ s, j = .str s ∧ o = some s := by
  cases j <;> simp [textOrNull, text, fail, Except.map, eq_comm]

theorem word_eq_ok_iff {words : List String} {find? : String → Option α} :
    word words find? j = .ok a ↔ ∃ s, j = .str s ∧ find? s = some a := by
  rw [word]
  cases j with
  | str s => cases h : find? s <;> simp [str?, fail, h]
  | _ => simp [str?, fail]

theorem list_eq_ok_iff : list check j = .ok as ↔
    ∃ xs, j = .arr xs ∧ List.Forall₂ (fun x a => check x = .ok a) xs as := by
  cases j <;> simp [list, fail, each_eq_ok_iff]

theorem isProper_text (j : Json) : IsProper j.text := by
  cases j with
  | str s => exact .ok s
  | _ => exact .fail _

theorem isProper_nonEmptyText (j : Json) : IsProper j.nonEmptyText := by
  cases j with
  | str s =>
    rw [Json.nonEmptyText]
    by_cases hs : s.isEmpty
    · rw [if_pos hs]
      exact .fail _
    · rw [if_neg hs]
      exact .ok s
  | _ => exact .fail _

theorem isProper_textOrNull (j : Json) : IsProper j.textOrNull := by
  unfold Json.textOrNull
  split
  · exact .ok _
  · exact (isProper_text _).map some

theorem isProper_word (words : List String) (find? : String → Option α) (j : Json) :
    IsProper (j.word words find?) := by
  unfold Json.word
  split
  · exact .ok _
  · exact .fail _

theorem isProper_list (h : ∀ j, (check j).IsProper) (j : Json) : IsProper (j.list check) := by
  unfold Json.list
  split
  · exact .each h _ _
  · exact .fail _

/-! ## Members of an object -/

theorem required_eq_ok_iff : required key check ms = .ok a ↔
    ∃ x, ms.lookup key = some x ∧ check x = .ok a := by
  rw [required, under_eq_ok_iff]
  cases ms.lookup key <;> simp [fail]

theorem optional_eq_ok_iff : optional key check d ms = .ok a ↔
    ms.lookup key = none ∧ a = d ∨ ∃ x, ms.lookup key = some x ∧ check x = .ok a := by
  rw [optional, under_eq_ok_iff]
  cases ms.lookup key <;> simp [eq_comm]

/-- The members under other keys than these. -/
def others (keys : List String) (ms : List (String × Json)) : List (String × Json) :=
  ms.filter fun m => !keys.contains m.1

theorem noOther_eq (keys : List String) (ms : List (String × Json)) :
    noOther keys ms = if (others keys ms).isEmpty then .ok ()
      else .error ((others keys ms).map fun m => ⟨[.key m.1], .unexpected⟩) := by
  unfold noOther
  split
  · rename_i hnil
    have hothers : others keys ms = [] := hnil
    rw [hothers]
    rfl
  · rename_i hne
    have hothers : (others keys ms).isEmpty = false := List.isEmpty_eq_false_iff.mpr hne
    rw [hothers]
    rfl

theorem violations_noOther (keys : List String) (ms : List (String × Json)) :
    (noOther keys ms).violations = (others keys ms).map fun m => ⟨[.key m.1], .unexpected⟩ := by
  rw [noOther_eq]
  cases others keys ms <;> rfl

theorem noOther_eq_ok_iff {keys : List String} {u : Unit} :
    noOther keys ms = .ok u ↔ ∀ m ∈ ms, m.1 ∈ keys := by
  have hnil : others keys ms = [] ↔ ∀ m ∈ ms, m.1 ∈ keys := by
    simp [others, List.filter_eq_nil_iff]
  rw [← hnil, noOther_eq]
  cases others keys ms <;> simp

theorem isProper_required (h : ∀ j, (check j).IsProper) (key : String)
    (ms : List (String × Json)) : IsProper (required key check ms) := by
  refine IsProper.under ?_
  split
  · exact h _
  · exact .fail _

theorem isProper_optional (h : ∀ j, (check j).IsProper) (key : String) (d : α)
    (ms : List (String × Json)) : IsProper (optional key check d ms) := by
  refine IsProper.under ?_
  split
  · exact h _
  · exact .ok _

theorem isProper_noOther (keys : List String) (ms : List (String × Json)) :
    IsProper (noOther keys ms) := by
  rw [noOther_eq]
  split
  · exact .ok _
  · rename_i hothers
    rintro _ ⟨⟩ hnil
    exact hothers (List.isEmpty_iff.mpr (List.map_eq_nil_iff.mp hnil))

end Json

end PageAudit
