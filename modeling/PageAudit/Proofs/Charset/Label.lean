import Mathlib.Data.List.DropRight
import PageAudit.Charset.Declaration

/-!
# Labels

A label is a longest run of characters that are not blank, end no value and end no tag. It is read
where it stands (`label?_eq_some_iff`) or after a quote and blanks (`openLabel?_eq_some_iff`).

The classes by which labels are read hold no capital without its small letter, so a label is the
same in a text and in the text put in small letters, but for letter case.
-/

namespace PageAudit.Charset

variable {u l : List Char} {c : Char}

/-- `l` is the longest run of label characters with which the text starts, and is not empty. -/
structure StartsWithLabel (u l : List Char) : Prop where
  ne_nil : l ≠ []
  all : ∀ c ∈ l, isLabelChar c
  maximal : ∃ v, u = l ++ v ∧ ∀ c ∈ v.head?, ¬ isLabelChar c

/-- The text starts with at most one quote, then any blanks, then a label. -/
def StartsWithOpenLabel (u l : List Char) : Prop :=
  ∃ quote blanks v, u = quote ++ blanks ++ v ∧ quote.length ≤ 1 ∧ (∀ c ∈ quote, isQuote c) ∧
    (∀ c ∈ blanks, Text.isBlank c) ∧ StartsWithLabel v l

/-! ## Letter case -/

theorem toLower_cases (c : Char) :
    (∃ n < 26, c = Char.ofNat (65 + n)) ∨ c.toLower = c ∧ ¬ c.isUpper := by
  by_cases hc : c.val ≥ 'A'.val ∧ c.val ≤ 'Z'.val
  · have hle : 65 ≤ c.toNat := UInt32.le_iff_toNat_le.mp hc.1
    have hge : c.toNat ≤ 90 := UInt32.le_iff_toNat_le.mp hc.2
    refine .inl ⟨c.toNat - 65, by omega, ?_⟩
    rw [Nat.add_sub_cancel' hle, Char.ofNat_toNat]
  · have hupper : c.isUpper ↔ c.val ≥ 'A'.val ∧ c.val ≤ 'Z'.val := decide_eq_true_iff
    exact .inr ⟨dif_neg hc, mt hupper.mp hc⟩

theorem isUpper_toLower (c : Char) : ¬ c.toLower.isUpper := by
  rcases toLower_cases c with ⟨n, hn, rfl⟩ | ⟨heq, hnot⟩
  · exact (by decide : ∀ n < 26, ¬ (Char.ofNat (65 + n)).toLower.isUpper) n hn
  · rwa [heq]

theorem toNat_toLower_lt (h : c.toNat < 0x80) : c.toLower.toNat < 0x80 := by
  rcases toLower_cases c with ⟨n, hn, rfl⟩ | ⟨heq, -⟩
  · exact (by decide : ∀ n < 26, (Char.ofNat (65 + n)).toLower.toNat < 0x80) n hn
  · rwa [heq]

/-- A class in which the capitals are as their small letters does not heed letter case. -/
theorem apply_toLower {p : Char → Bool}
    (h : ∀ n < 26, p (Char.ofNat (65 + n)).toLower = p (Char.ofNat (65 + n))) (c : Char) :
    p c.toLower = p c := by
  rcases toLower_cases c with ⟨n, hn, rfl⟩ | ⟨heq, -⟩
  · exact h n hn
  · rw [heq]

@[simp]
theorem isLabelChar_toLower (c : Char) : isLabelChar c.toLower = isLabelChar c :=
  apply_toLower (by decide) c

@[simp]
theorem isQuote_toLower (c : Char) : isQuote c.toLower = isQuote c :=
  apply_toLower (by decide) c

@[simp]
theorem isBlank_toLower (c : Char) : Text.isBlank c.toLower = Text.isBlank c :=
  apply_toLower (by decide) c

/-! ## The label that is read -/

theorem startsWithLabel_iff : StartsWithLabel u l ↔ u.takeWhile isLabelChar = l ∧ l ≠ [] := by
  constructor
  · rintro ⟨hne, hall, v, rfl, hmax⟩
    refine ⟨?_, hne⟩
    rw [List.takeWhile_append_of_pos hall]
    rcases v with _ | ⟨c, v⟩
    · simp
    · rw [List.takeWhile_cons_of_neg (hmax c rfl), List.append_nil]
  · rintro ⟨rfl, hne⟩
    refine ⟨hne, fun c hc => List.mem_takeWhile_imp hc, u.dropWhile isLabelChar,
      List.takeWhile_append_dropWhile.symm, fun c hc => ?_⟩
    have hnot := List.head?_dropWhile_not isLabelChar u
    rw [hc] at hnot
    simp [hnot]

theorem label?_eq_some_iff : label? u = some l ↔ StartsWithLabel u l := by
  rw [startsWithLabel_iff, label?]
  rcases hw : u.takeWhile isLabelChar with _ | ⟨c, w⟩
  · simp
  · simp only [List.isEmpty_cons, Bool.false_eq_true, if_false, Option.some.injEq]
    exact ⟨fun h => ⟨h, h ▸ List.cons_ne_nil c w⟩, And.left⟩

theorem isLabelChar_iff :
    isLabelChar c ↔ ¬ Text.isBlank c ∧ c ∉ ['"', '\'', ';', '>'] := by
  simp [isLabelChar, isQuote, and_assoc]

theorem not_isQuote_of_isLabelChar (h : isLabelChar c) : ¬ isQuote c := by
  intro hq
  simp [isLabelChar, hq] at h

theorem not_isQuote_of_isBlank (h : Text.isBlank c) : ¬ isQuote c := by
  intro hq
  rcases (by simpa [isQuote] using hq : c = '"' ∨ c = '\'') with rfl | rfl <;>
    exact absurd h (by decide)

theorem StartsWithLabel.exists_cons (h : StartsWithLabel u l) :
    ∃ c v, u = c :: v ∧ isLabelChar c := by
  obtain ⟨hne, hall, v, rfl, -⟩ := h
  obtain ⟨c, w, rfl⟩ := List.exists_cons_of_ne_nil hne
  exact ⟨c, w ++ v, rfl, hall c List.mem_cons_self⟩

section Blanks
variable {blanks v : List Char} (hblanks : ∀ c ∈ blanks, Text.isBlank c) (h : StartsWithLabel v l)
include hblanks h

theorem dropWhile_blanks : (blanks ++ v).dropWhile Text.isBlank = v := by
  obtain ⟨c, w, hv, hc⟩ := h.exists_cons
  rw [List.dropWhile_append_of_pos hblanks, hv,
    List.dropWhile_cons_of_neg (isLabelChar_iff.mp hc).1]

theorem exists_cons_blanks : ∃ d t, blanks ++ v = d :: t ∧ ¬ isQuote d := by
  rcases blanks with _ | ⟨b, blanks⟩
  · obtain ⟨c, w, hv, hc⟩ := h.exists_cons
    exact ⟨c, w, hv, not_isQuote_of_isLabelChar hc⟩
  · exact ⟨b, blanks ++ v, rfl, not_isQuote_of_isBlank (hblanks b List.mem_cons_self)⟩

end Blanks

theorem openLabel?_eq_some_iff : openLabel? u = some l ↔ StartsWithOpenLabel u l := by
  constructor
  · intro h
    rcases u with _ | ⟨c, t⟩
    · cases h
    rw [openLabel?, label?_eq_some_iff] at h
    set rest := if isQuote c then t else c :: t with hrest
    refine ⟨if isQuote c then [c] else [], rest.takeWhile Text.isBlank,
      rest.dropWhile Text.isBlank, ?_, ?_, ?_, fun c hc => List.mem_takeWhile_imp hc, h⟩
    · rw [List.append_assoc, List.takeWhile_append_dropWhile, hrest]
      split <;> rfl
    · split <;> simp
    · split <;> simp [*]
  · rintro ⟨quote, blanks, v, rfl, hone, hquote, hblanks, hlabel⟩
    have hdrop := dropWhile_blanks hblanks hlabel
    rcases quote with _ | ⟨q, quote⟩
    · obtain ⟨d, t, ht, hd⟩ := exists_cons_blanks hblanks hlabel
      rw [List.nil_append, ht, openLabel?, if_neg hd, ← ht, hdrop, label?_eq_some_iff]
      exact hlabel
    · obtain rfl : quote = [] := by simpa using hone
      rw [List.singleton_append, List.cons_append, openLabel?,
        if_pos (hquote q List.mem_cons_self), hdrop, label?_eq_some_iff]
      exact hlabel

theorem label?_map_toLower (u : List Char) :
    label? (u.map Char.toLower) = (label? u).map (List.map Char.toLower) := by
  have hclass : isLabelChar ∘ Char.toLower = isLabelChar := funext isLabelChar_toLower
  simp only [label?, List.takeWhile_map, hclass, List.isEmpty_map]
  split <;> rfl

theorem openLabel?_map_toLower (u : List Char) :
    openLabel? (u.map Char.toLower) = (openLabel? u).map (List.map Char.toLower) := by
  have hclass : Text.isBlank ∘ Char.toLower = Text.isBlank := funext isBlank_toLower
  rcases u with _ | ⟨c, t⟩
  · rfl
  · rw [List.map_cons, openLabel?, openLabel?, isQuote_toLower, ← List.map_cons,
      ← label?_map_toLower]
    split <;> rw [List.dropWhile_map, hclass]

theorem StartsWithLabel.unique {l' : List Char} (h : StartsWithLabel u l)
    (h' : StartsWithLabel u l') : l = l' :=
  Option.some.inj ((label?_eq_some_iff.mpr h).symm.trans (label?_eq_some_iff.mpr h'))

theorem StartsWithOpenLabel.unique {l' : List Char} (h : StartsWithOpenLabel u l)
    (h' : StartsWithOpenLabel u l') : l = l' :=
  Option.some.inj ((openLabel?_eq_some_iff.mpr h).symm.trans (openLabel?_eq_some_iff.mpr h'))

theorem StartsWithLabel.subset (h : StartsWithLabel u l) : l ⊆ u := by
  obtain ⟨v, rfl, -⟩ := h.maximal
  exact List.subset_append_left l v

theorem StartsWithOpenLabel.exists_suffix (h : StartsWithOpenLabel u l) :
    ∃ v, v <:+ u ∧ StartsWithLabel v l := by
  obtain ⟨quote, blanks, v, rfl, -, -, -, hlabel⟩ := h
  exact ⟨v, List.suffix_append _ v, hlabel⟩

end PageAudit.Charset
