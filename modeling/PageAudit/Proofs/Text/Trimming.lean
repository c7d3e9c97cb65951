import PageAudit.Proofs.Text.Edges
import PageAudit.Text.Trim

/-!
# What trimming leaves of a text

Edges are searched for at every place of a text, and a run that breaks off inside it is tried again
from each of its characters. Nevertheless at most two of them are found: the run at the start
(`behindEdge_start`), and the run that reaches the end (`behindEdge_later`). An edge may also end in
front of a last line feed, but a line feed belongs to the class, so the longest run has it too
(`behindRun_isEnd`). What is left is the core of the text (`cutEdges_eq_dropEdges`), and that is why
a text is trimmed in one way only (`trim_spec`).
-/

namespace PageAudit.Text

section Search

variable {p : Char → Bool} {isStart : Bool} {c : Char} {s rest kept : List Char}

/-! ## One edge -/

theorem all_of_isEnd (hfeed : p '\n') (h : isEnd s) : s.all p := by
  rcases s with _ | ⟨c, s⟩
  · rfl
  · obtain ⟨rfl, rfl⟩ : c = '\n' ∧ s = [] := by simpa [isEnd] using h
    rw [List.all_cons, hfeed, List.all_nil, Bool.and_self]

theorem behindRun_anywhere (p : Char → Bool) (s : List Char) :
    behindRun p (fun _ => true) (some s) s = some (s.dropWhile p) := by
  induction s with
  | nil => rfl
  | cons c s ih =>
    rw [behindRun, List.dropWhile_cons, if_pos rfl, ih]
    split <;> rfl

theorem behindRun_isEnd (hfeed : p '\n') (found : Option (List Char)) (c : Char) (s : List Char) :
    behindRun p isEnd found (c :: s) = if (c :: s).all p then some [] else found := by
  induction s generalizing c found with
  | nil =>
    rw [List.all_cons, List.all_nil, Bool.and_true]
    rfl
  | cons d s ih =>
    rw [List.all_cons]
    by_cases hc : p c
    · rw [behindRun, if_pos hc, ih, hc, Bool.true_and]
      -- a rest in the class is taken to its end, past the place in front of a last line feed
      by_cases hs : (d :: s).all p
      · rw [if_pos hs, if_pos hs]
      · have hend : ¬ isEnd (d :: s) := fun h => hs (all_of_isEnd hfeed h)
        rw [if_neg hs, if_neg hs, if_neg hend]
    · rw [behindRun, if_neg hc, Bool.eq_false_iff.mpr hc, Bool.false_and,
        if_neg Bool.false_ne_true]

/-- Where the text starts, an edge is all of the class that it starts with. -/
theorem behindEdge_start (hfeed : p '\n') (c : Char) (s : List Char) :
    behindEdge p true (c :: s) = if p c then some (s.dropWhile p) else none := by
  rw [behindEdge, if_pos rfl, behindRun_isEnd hfeed, behindRun, if_pos rfl, behindRun_anywhere]
  by_cases hc : p c
  · rw [if_pos hc]
    rfl
  · rw [if_neg hc, List.all_cons, Bool.eq_false_iff.mpr hc]
    rfl

/-- Further on, an edge is all that is left of the text. -/
theorem behindEdge_later (hfeed : p '\n') (c : Char) (s : List Char) :
    behindEdge p false (c :: s) = if (c :: s).all p then some [] else none :=
  behindRun_isEnd hfeed none c s

/-! ## All edges -/

theorem cutEdges_pending (p : Char → Bool) (kept : List Char) (n : Nat) (s : List Char) :
    cutEdges p false n kept s = cutEdges p false 0 kept (s.drop n) := by
  induction s generalizing n with
  | nil => rw [List.drop_nil, cutEdges, cutEdges]
  | cons c s ih =>
    cases n with
    | zero => rfl
    | succ n => rw [cutEdges, ih, List.drop_succ_cons]

theorem cutEdges_of_some (h : behindEdge p isStart (c :: s) = some rest) (hrest : rest <:+ s) :
    cutEdges p isStart 0 kept (c :: s) = cutEdges p false 0 kept rest := by
  have hdrop : s.drop (s.length - rest.length) = rest := (List.suffix_iff_eq_drop.mp hrest).symm
  rw [cutEdges, h]
  exact (cutEdges_pending p kept _ s).trans (by rw [hdrop])

theorem cutEdges_of_none (h : behindEdge p isStart (c :: s) = none) :
    cutEdges p isStart 0 kept (c :: s) = cutEdges p false 0 (c :: kept) s := by
  rw [cutEdges, h]

theorem rdropWhile_cons (p : Char → Bool) (c : Char) (s : List Char) :
    (c :: s).rdropWhile p = if (c :: s).all p then [] else c :: s.rdropWhile p := by
  rw [List.all_cons]
  by_cases hs : s.all p
  · have hall : ∀ d ∈ s, p d := List.all_eq_true.mp hs
    rw [← List.singleton_append, rdropWhile_append_of_pos _ hall, List.rdropWhile_singleton,
      List.rdropWhile_eq_nil_iff.mpr hall, hs, Bool.and_true]
  · have hne : (s.reverse.dropWhile p).isEmpty = false := by simpa using hs
    rw [Bool.eq_false_iff.mpr hs, Bool.and_false, if_neg Bool.false_ne_true,
      List.rdropWhile, List.reverse_cons, List.dropWhile_append, hne, if_neg Bool.false_ne_true,
      List.reverse_append]
    rfl

/-- The rest of a text, inside which only a run up to the end is an edge. -/
theorem cutEdges_later (hfeed : p '\n') (kept s : List Char) :
    cutEdges p false 0 kept s = kept.reverse ++ s.rdropWhile p := by
  induction s generalizing kept with
  | nil => rw [cutEdges, List.rdropWhile_nil, List.append_nil]
  | cons c s ih =>
    have hbehind := behindEdge_later hfeed c s
    rw [rdropWhile_cons]
    by_cases hall : (c :: s).all p
    · rw [if_pos hall] at hbehind
      rw [if_pos hall, cutEdges_of_some hbehind List.nil_suffix, cutEdges, List.append_nil]
    · -- also where a run begins, if it breaks off: the first character stays, the next is tried
      rw [if_neg hall] at hbehind
      rw [if_neg hall, cutEdges_of_none hbehind, ih, List.reverse_cons, List.append_assoc,
        List.singleton_append]

theorem cutEdges_eq_dropEdges (hfeed : p '\n') (s : List Char) :
    cutEdges p true 0 [] s = dropEdges p s := by
  rw [dropEdges_eq]
  cases s with
  | nil => rfl
  | cons c s =>
    have hbehind := behindEdge_start hfeed c s
    by_cases hc : p c
    · rw [if_pos hc] at hbehind
      rw [cutEdges_of_some hbehind (List.dropWhile_suffix p), cutEdges_later hfeed,
        List.dropWhile_cons_of_pos hc, List.reverse_nil, List.nil_append]
    · have hall : ¬ (c :: s).all p := fun h => hc (List.all_eq_true.mp h c List.mem_cons_self)
      rw [if_neg hc] at hbehind
      rw [cutEdges_of_none hbehind, cutEdges_later hfeed, List.dropWhile_cons_of_neg hc,
        rdropWhile_cons, if_neg hall, List.reverse_singleton, List.singleton_append]

end Search

/-! ## Texts -/

variable {a b s t : String}

/-- The text is made of blanks and byte order marks. -/
def AllEdge (s : String) : Prop :=
  ∀ c ∈ s.toList, isEdge c

/-- The text is empty or begins and ends with characters that are neither blanks nor byte order
marks. -/
def IsBare (s : String) : Prop :=
  s = "" ∨ (∃ c ∈ s.toList.head?, ¬ isEdge c) ∧ ∃ c ∈ s.toList.getLast?, ¬ isEdge c

theorem isBare_iff (s : String) : IsBare s
    ↔ (∀ c ∈ s.toList.head?, ¬ isEdge c) ∧ ∀ c ∈ s.toList.getLast?, ¬ isEdge c := by
  rw [IsBare, ← String.toList_eq_nil_iff]
  rcases s.toList with _ | ⟨c, rest⟩
  · simp
  · simp [List.getLast?_eq_some_getLast (List.cons_ne_nil c rest)]

theorem isCore_toList_iff : IsCore isEdge t.toList s.toList
    ↔ IsBare s ∧ ∃ a b : String, AllEdge a ∧ AllEdge b ∧ t = a ++ s ++ b := by
  constructor
  · rintro ⟨⟨a, b, ha, hb, hsplit⟩, hhead, hlast⟩
    refine ⟨(isBare_iff s).mpr ⟨hhead, hlast⟩, .ofList a, .ofList b, ?_, ?_, ?_⟩
    · rwa [AllEdge, String.toList_ofList]
    · rwa [AllEdge, String.toList_ofList]
    · rw [← String.toList_inj, hsplit]
      simp only [String.toList_append, String.toList_ofList]
  · rintro ⟨hbare, a, b, ha, hb, rfl⟩
    obtain ⟨hhead, hlast⟩ := (isBare_iff s).mp hbare
    exact ⟨⟨a.toList, b.toList, ha, hb, by simp only [String.toList_append]⟩, hhead, hlast⟩

theorem toList_trim (t : String) : (trim t).toList = dropEdges isEdge t.toList := by
  rw [trim, String.toList_ofList]
  exact cutEdges_eq_dropEdges rfl t.toList

theorem isCore_iff_eq_trim : IsCore isEdge t.toList s.toList ↔ s = trim t := by
  rw [isCore_iff, ← toList_trim, String.toList_inj]

theorem trim_padded (t : String) (ha : AllEdge a) (hb : AllEdge b) :
    trim (a ++ t ++ b) = trim t := by
  rw [← String.toList_inj, toList_trim, toList_trim, String.toList_append, String.toList_append,
    dropEdges_padded t.toList ha hb]

/-- A text is what it is trimmed to, with blanks and byte order marks before and after. What it is
trimmed to is empty, or begins and ends with other characters. Nothing else can be told from the
text in this way, so what stands inside it is kept, blank or not. Trimming once more changes
nothing, and it makes no difference what blanks and byte order marks are put around the text. -/
theorem trim_spec (t : String) :
    (∃ a b : String, AllEdge a ∧ AllEdge b ∧ t = a ++ trim t ++ b)
      ∧ IsBare (trim t)
      ∧ (∀ a s b : String, AllEdge a → IsBare s → AllEdge b → t = a ++ s ++ b → s = trim t)
      ∧ trim (trim t) = trim t
      ∧ ∀ a b : String, AllEdge a → AllEdge b → trim (a ++ t ++ b) = trim t := by
  obtain ⟨hbare, hsplit⟩ := isCore_toList_iff.mp (isCore_iff_eq_trim.mpr (Eq.refl (trim t)))
  refine ⟨hsplit, hbare, fun a s b ha hs hb h => ?_, ?_, fun a b ha hb => trim_padded t ha hb⟩
  · exact isCore_iff_eq_trim.mp (isCore_toList_iff.mpr ⟨hs, a, b, ha, hb, h⟩)
  · obtain ⟨a, b, ha, hb, hsplit⟩ := hsplit
    calc trim (trim t) = trim (a ++ trim t ++ b) := (trim_padded _ ha hb).symm
      _ = trim t := by rw [← hsplit]

/-- The mark and the line feed inside a text stay, and those around it go. -/
theorem trim_spec_markedInside :
    AllEdge "\ufeff \n" ∧ AllEdge "\x1f\n" ∧ IsBare "The \ufeff\n end"
      ∧ trim "\ufeff \nThe \ufeff\n end\x1f\n" = "The \ufeff\n end"
      ∧ trim ("\x1f\n" ++ "\ufeff \nThe \ufeff\n end\x1f\n" ++ "\ufeff \n")
        = "The \ufeff\n end" := by
  have hmark : AllEdge "\ufeff \n" := List.all_eq_true.mp (by decide +kernel)
  have hseparator : AllEdge "\x1f\n" := List.all_eq_true.mp (by decide +kernel)
  have hbare : IsBare "The \ufeff\n end" := .inr ⟨⟨'T', rfl, by decide⟩, 'd', rfl, by decide⟩
  obtain ⟨-, -, hunique, -, hpadded⟩ := trim_spec "\ufeff \nThe \ufeff\n end\x1f\n"
  have htrim := (hunique _ _ _ hmark hbare hseparator (by decide +kernel)).symm
  exact ⟨hmark, hseparator, hbare, htrim, (hpadded _ _ hseparator hmark).trans htrim⟩

end PageAudit.Text
