import Mathlib.Order.Bounds.Basic
import PageAudit.Charset.Declaration

/-!
# What a search finds

The combinators by which a declaration is looked for try one place after another, and each settles
on an extreme one among the places from which anything can be made: `firstFrom` on the least
(`firstFrom_picks`), `afterRun` and `afterSome`, which give back what they took, on the greatest
(`afterRun_picks`, `afterSome_picks`).

Places are counted from the start of the whole text, so the rest of the text at place `i` is
`s.drop i`, and what stands between two places is an `extract`.
-/

namespace PageAudit.Charset

section Picks

variable {α : Type*} {best : Set Nat → Nat → Prop} {R R' : Nat → α → Prop} {o o' : Option α}
  {i : Nat}

/-- What there is at the best of all the places at which there is anything. -/
inductive Picks (best : Set Nat → Nat → Prop) (R : Nat → α → Prop) : Option α → Prop
  | nothing (h : ∀ j r, ¬ R j r) : Picks best R none
  | found {j : Nat} {r : α} (hj : best {j | ∃ r, R j r} j) (h : R j r) : Picks best R (some r)

theorem Picks.congr (h : Picks best R o) (hR : ∀ j r, R j r ↔ R' j r) : Picks best R' o := by
  obtain rfl : R = R' := funext₂ fun j r => propext (hR j r)
  exact h

theorem Picks.exists_eq_some_iff (h : Picks best R o) : (∃ r, o = some r) ↔ ∃ j r, R j r := by
  cases h with
  | nothing h => simpa using h
  | @found j r _ h => exact ⟨fun _ => ⟨j, r, h⟩, fun _ => ⟨r, rfl⟩⟩

/-- There is but one place. -/
theorem picks_only (i : Nat) (o : Option α) (hbest : best {i} i) :
    Picks best (fun j r => j = i ∧ o = some r) o := by
  rcases o with _ | r
  · exact .nothing fun j r => by simp
  · refine .found (j := i) ?_ ⟨rfl, rfl⟩
    have hplaces : {j | ∃ r', j = i ∧ some r = some r'} = {i} := by ext j; simp
    rwa [hplaces]

/-- One place more, before all others. -/
theorem Picks.least_orElse (h : Picks IsLeast R o) (hlt : ∀ j r, R j r → i < j) :
    Picks IsLeast (fun j r => j = i ∧ o' = some r ∨ R j r) (o' <|> o) := by
  rcases o' with _ | r
  · exact h.congr fun j r => by simp
  · refine .found (j := i) ⟨⟨r, .inl ⟨rfl, rfl⟩⟩, ?_⟩ (.inl ⟨rfl, rfl⟩)
    rintro j ⟨r', ⟨rfl, -⟩ | hr'⟩
    · exact le_rfl
    · exact (hlt j r' hr').le

theorem Picks.greatest_orElse (h : Picks IsGreatest R o) (hlt : ∀ j r, R j r → i < j) :
    Picks IsGreatest (fun j r => j = i ∧ o' = some r ∨ R j r) (o <|> o') := by
  cases h with
  | nothing h => exact (picks_only i o' isGreatest_singleton).congr fun j r => by simp [h j r]
  | @found j r hj h =>
    refine .found ⟨⟨r, .inr h⟩, ?_⟩ (.inr h)
    rintro j' ⟨r', ⟨rfl, -⟩ | hr'⟩
    · exact (hlt j r h).le
    · exact hj.2 ⟨r', hr'⟩

end Picks

variable {α : Type*} {s t : List Char} {i j : Nat} {c : Char} {r : α}

/-! ## Runs -/

/-- From place `i` to place `j` of the text there are characters of the class only. -/
structure Run (p : Char → Bool) (s : List Char) (i j : Nat) : Prop where
  le : i ≤ j
  le_length : j ≤ s.length
  all : ∀ c ∈ s.extract i j, p c

theorem run_of_drop_eq_nil (p : Char → Bool) (hi : i ≤ s.length) (h : s.drop i = []) :
    Run p s i j ↔ j = i := by
  have hlen : s.length ≤ i := List.drop_eq_nil_iff.mp h
  constructor
  · intro hrun
    exact le_antisymm (hrun.le_length.trans hlen) hrun.le
  · rintro rfl
    exact ⟨le_rfl, hi, by simp⟩

theorem drop_succ_of_drop_eq_cons (h : s.drop i = c :: t) : s.drop (i + 1) = t := by
  rw [← List.drop_drop, h, List.drop_one, List.tail_cons]

theorem lt_length_of_drop_eq_cons (h : s.drop i = c :: t) : i < s.length := by
  by_contra hle
  simp [List.drop_eq_nil_iff.mpr (not_lt.mp hle)] at h

theorem run_of_drop_eq_cons (p : Char → Bool) (h : s.drop i = c :: t) :
    Run p s i j ↔ j = i ∨ p c ∧ Run p s (i + 1) j := by
  have hlt := lt_length_of_drop_eq_cons h
  have hextract : i < j → s.extract i j = c :: s.extract (i + 1) j := by
    intro hij
    rw [List.extract_eq_take_drop, List.extract_eq_take_drop, h, drop_succ_of_drop_eq_cons h,
      ← Nat.succ_sub_succ j i, Nat.succ_sub hij, List.take_succ_cons]
  constructor
  · intro hrun
    rcases hrun.le.eq_or_lt with rfl | hij
    · exact .inl rfl
    · have hall := hrun.all
      rw [hextract hij, List.forall_mem_cons] at hall
      exact .inr ⟨hall.1, hij, hrun.le_length, hall.2⟩
  · rintro (rfl | ⟨hc, hrun⟩)
    · exact ⟨le_rfl, hlt.le, by simp⟩
    · have hij : i < j := hrun.le
      refine ⟨hij.le, hrun.le_length, ?_⟩
      rw [hextract hij, List.forall_mem_cons]
      exact ⟨hc, hrun.all⟩

/-! ## The combinators -/

/-- The run is taken as long as it goes and given back from its end. -/
theorem afterRun_picks (p : Char → Bool) (k : List Char → Option α) (s : List Char)
    (hi : i ≤ s.length) :
    Picks IsGreatest (fun j r => Run p s i j ∧ k (s.drop j) = some r)
      (afterRun p k (s.drop i)) := by
  have honly {i : Nat} := picks_only i (k (s.drop i)) isGreatest_singleton
  induction h : s.drop i generalizing i with
  | nil =>
    rw [afterRun, ← h]
    refine honly.congr fun j r => ?_
    rw [run_of_drop_eq_nil p hi h]
    exact and_congr_right fun hj => by rw [hj]
  | cons c t ih =>
    have hrun := fun j => run_of_drop_eq_cons (j := j) p h
    have hlt := lt_length_of_drop_eq_cons h
    rw [afterRun, ← h]
    by_cases hc : p c
    · have hrest := ih hlt (drop_succ_of_drop_eq_cons h)
      rw [if_pos hc]
      refine (hrest.greatest_orElse (i := i) fun j r hr => hr.1.le).congr fun j r => ?_
      rw [hrun, hc, eq_self, true_and, or_and_right]
      exact or_congr_left (and_congr_right fun hj => by rw [hj])
    · rw [if_neg hc]
      refine honly.congr fun j r => ?_
      simp only [hrun, hc, Bool.false_eq_true, false_and, or_false]
      exact and_congr_right fun hj => by rw [hj]

theorem afterSome_picks (p : Char → Bool) (k : List Char → Option α) (s : List Char) (i : Nat) :
    Picks IsGreatest (fun j r => (i < j ∧ Run p s i j) ∧ k (s.drop j) = some r)
      (afterSome p k (s.drop i)) := by
  rcases h : s.drop i with _ | ⟨c, t⟩
  · refine .nothing fun j r ⟨⟨hij, hrun⟩, _⟩ => ?_
    have hlen : s.length ≤ i := List.drop_eq_nil_iff.mp h
    exact absurd hij (not_lt.mpr (hrun.le_length.trans hlen))
  · have hrun : ∀ j, i < j ∧ Run p s i j ↔ p c ∧ Run p s (i + 1) j := by
      intro j
      rw [run_of_drop_eq_cons p h]
      constructor
      · rintro ⟨hij, rfl | hrun⟩
        · exact absurd hij (lt_irrefl _)
        · exact hrun
      · rintro ⟨hc, hrun⟩
        exact ⟨hrun.le, .inr ⟨hc, hrun⟩⟩
    rw [afterSome]
    by_cases hc : p c
    · rw [if_pos hc, ← drop_succ_of_drop_eq_cons h]
      refine (afterRun_picks p k s (lt_length_of_drop_eq_cons h)).congr fun j r => ?_
      rw [hrun, hc, eq_self, true_and]
    · rw [if_neg hc]
      exact .nothing fun j r hr => hc ((hrun j).mp hr.1).1

theorem firstFrom_picks (k : List Char → Option α) (s : List Char) :
    Picks IsLeast (fun i r => i ≤ s.length ∧ k (s.drop i) = some r) (firstFrom k s) := by
  suffices hfrom : ∀ i ≤ s.length,
      Picks IsLeast (fun j r => (i ≤ j ∧ j ≤ s.length) ∧ k (s.drop j) = some r)
        (firstFrom k (s.drop i)) from
    (hfrom 0 (Nat.zero_le _)).congr fun j r => by rw [and_iff_right (Nat.zero_le j)]
  intro i hi
  induction h : s.drop i generalizing i with
  | nil =>
    have hlen : s.length ≤ i := List.drop_eq_nil_iff.mp h
    rw [firstFrom, ← h]
    refine (picks_only i _ isLeast_singleton).congr fun j r => ?_
    constructor
    · rintro ⟨rfl, hr⟩
      exact ⟨⟨le_rfl, hi⟩, hr⟩
    · rintro ⟨⟨hij, hj⟩, hr⟩
      obtain rfl : j = i := le_antisymm (hj.trans hlen) hij
      exact ⟨rfl, hr⟩
  | cons c t ih =>
    have hlt := lt_length_of_drop_eq_cons h
    have hrest := ih (i + 1) hlt (drop_succ_of_drop_eq_cons h)
    rw [firstFrom, ← h]
    refine (hrest.least_orElse (i := i) fun j r hr => hr.1.1).congr fun j r => ?_
    constructor
    · rintro (⟨rfl, hr⟩ | ⟨⟨hij, hj⟩, hr⟩)
      · exact ⟨⟨le_rfl, hi⟩, hr⟩
      · exact ⟨⟨(Nat.lt_of_succ_le hij).le, hj⟩, hr⟩
    · rintro ⟨⟨hij, hj⟩, hr⟩
      rcases hij.eq_or_lt with rfl | hij
      · exact .inl ⟨rfl, hr⟩
      · exact .inr ⟨⟨hij, hj⟩, hr⟩

theorem afterWord_drop (w : String) (k : List Char → Option α) (s : List Char) (i : Nat) :
    afterWord w k (s.drop i)
      = if w.toList <+: s.drop i then k (s.drop (i + w.length)) else none := by
  simp only [afterWord, List.isPrefixOf_iff_prefix, List.drop_drop]

theorem quoteThen_drop (k : List Char → Option α) (s : List Char) (i : Nat) :
    quoteThen k (s.drop i) = if s[i]?.any isQuote then k (s.drop (i + 1)) else none := by
  rw [← List.head?_drop, ← List.drop_drop, List.drop_one]
  rcases s.drop i with _ | ⟨c, t⟩ <;> rfl

end PageAudit.Charset
