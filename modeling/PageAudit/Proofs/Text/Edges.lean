import Mathlib.Data.List.DropRight
import PageAudit.Text.Blank

/-!
# The edges of a text

A text is made of what stands at its edges and of a core between them, which begins and ends with
characters of another kind or is empty. There is one core to each text, and `dropEdges` gives it
(`isCore_iff`), so whatever is added at the edges leaves it as it is (`dropEdges_padded`).
-/

namespace PageAudit.Text

variable {p : Char → Bool} {a b s core : List Char}

/-- What is left of a text without the characters of a class that it begins and ends with. -/
structure IsCore (p : Char → Bool) (s core : List Char) : Prop where
  edges : ∃ a b, (∀ c ∈ a, p c) ∧ (∀ c ∈ b, p c) ∧ s = a ++ core ++ b
  head : ∀ c ∈ core.head?, ¬ p c
  last : ∀ c ∈ core.getLast?, ¬ p c

theorem dropEdges_eq (p : Char → Bool) (s : List Char) :
    dropEdges p s = (s.dropWhile p).rdropWhile p := rfl

theorem rdropWhile_append_of_pos (s : List Char) (hb : ∀ c ∈ b, p c) :
    (s ++ b).rdropWhile p = s.rdropWhile p := by
  rw [List.rdropWhile, List.reverse_append, List.dropWhile_append_of_pos (by simpa using hb)]
  rfl

/-- Characters of the class at either edge make no difference. -/
theorem dropEdges_padded (s : List Char) (ha : ∀ c ∈ a, p c) (hb : ∀ c ∈ b, p c) :
    dropEdges p (a ++ s ++ b) = dropEdges p s := by
  rw [dropEdges_eq, dropEdges_eq, List.append_assoc, List.dropWhile_append_of_pos ha,
    List.dropWhile_append]
  split
  · rename_i hempty
    have hs : s.dropWhile p = [] := List.isEmpty_iff.mp hempty
    rw [hs, List.rdropWhile_eq_nil_iff.mpr fun c hc => hb c ((List.dropWhile_sublist p).subset hc),
      List.rdropWhile_nil]
  · exact rdropWhile_append_of_pos _ hb

theorem dropEdges_eq_self (hhead : ∀ c ∈ core.head?, ¬ p c) (hlast : ∀ c ∈ core.getLast?, ¬ p c) :
    dropEdges p core = core := by
  have hfront : core.dropWhile p = core :=
    List.dropWhile_eq_self_iff.mpr fun h => hhead _ (by simp [List.head?_eq_getElem?, h])
  have hback : core.rdropWhile p = core :=
    List.rdropWhile_eq_self_iff.mpr fun h => hlast _ (List.getLast?_eq_some_getLast h)
  rw [dropEdges_eq, hfront, hback]

theorem isCore_dropEdges (p : Char → Bool) (s : List Char) : IsCore p s (dropEdges p s) where
  edges := by
    refine ⟨s.takeWhile p, (s.dropWhile p).rtakeWhile p, fun c hc => List.mem_takeWhile_imp hc,
      fun c hc => List.mem_rtakeWhile_imp hc, ?_⟩
    rw [List.append_assoc, dropEdges_eq, List.rdropWhile_append_rtakeWhile,
      List.takeWhile_append_dropWhile]
  head c hc := by
    obtain ⟨rest, hrest⟩ := List.rdropWhile_prefix p (l := s.dropWhile p)
    have hfirst : (s.dropWhile p).head? = some c := by
      rw [← hrest, List.head?_append, ← dropEdges_eq, hc, Option.some_or]
    have hnot := List.head?_dropWhile_not p s
    simp only [hfirst] at hnot
    simp [hnot]
  last c hc := by
    obtain ⟨hne, rfl⟩ := List.mem_getLast?_eq_getLast hc
    exact List.rdropWhile_last_not p _ hne

/-- The core of a text is what is left when its edges are dropped. -/
theorem isCore_iff : IsCore p s core ↔ core = dropEdges p s := by
  constructor
  · rintro ⟨⟨a, b, ha, hb, rfl⟩, hhead, hlast⟩
    rw [dropEdges_padded core ha hb, dropEdges_eq_self hhead hlast]
  · rintro rfl
    exact isCore_dropEdges p s

end PageAudit.Text
