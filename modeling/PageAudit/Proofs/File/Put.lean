import PageAudit.File.Tree

/-!
# What is put in the place of something

Files are kept as entries, and so are loggers. What is put under a key takes the place of all that
was there before (`lookup_put_self`), and what is under the other keys stays (`lookup_put_of_ne`).
-/

namespace PageAudit

section
variable {α β : Type} [BEq α] [LawfulBEq α] {key other : α}

theorem lookup_filter_self (key : α) (entries : List (α × β)) :
    (entries.filter (·.1 != key)).lookup key = none := by
  refine List.lookup_eq_none_iff.mpr fun entry hentry => ?_
  rw [bne_comm]
  exact (List.mem_filter.mp hentry).2

theorem lookup_filter_ne (hne : other ≠ key) :
    ∀ entries : List (α × β), (entries.filter (·.1 != key)).lookup other = entries.lookup other
  | [] => rfl
  | (k, v) :: entries => by
    have ih := lookup_filter_ne hne entries
    by_cases hk : k = key
    · have hbeq : (other == key) = false := beq_eq_false_iff_ne.mpr hne
      simp [hk, ih, List.lookup_cons, hbeq]
    · simp [hk, ih, List.lookup_cons]

theorem lookup_put_self (entries : List (α × β)) (key : α) (value : β) :
    (entries.filter (·.1 != key) ++ [(key, value)]).lookup key = some value := by
  rw [List.lookup_append, lookup_filter_self, Option.none_or, List.lookup_cons_self]

theorem lookup_put_of_ne (entries : List (α × β)) (value : β) (hne : other ≠ key) :
    (entries.filter (·.1 != key) ++ [(key, value)]).lookup other = entries.lookup other := by
  have hbeq : (other == key) = false := beq_eq_false_iff_ne.mpr hne
  simp [List.lookup_append, lookup_filter_ne hne, List.lookup_cons, hbeq]

end

theorem FileTree.lookup_put (t : FileTree) (place : List String) (content : Bytes) :
    (t.put place content).files.lookup place = some content :=
  lookup_put_self t.files place content

end PageAudit
