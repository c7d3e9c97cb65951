import PageAudit.Report.Issue

/-!
# The count that an issue reports

An issue about a count gives it as a number among the words of its description. The first word that
is a number is read back as that count, whatever stands around it (`Issue.count?_of_description`).
-/

namespace PageAudit

/-- The number that a word of digits is. -/
def wordNumber? (word : List Char) : Option Nat :=
  if word ≠ [] ∧ word.all Char.isDigit then some (Nat.ofDigitChars 10 word 0) else none

theorem wordNumber?_toDigits (n : Nat) : wordNumber? (Nat.toDigits 10 n) = some n := by
  have hdigits : (Nat.toDigits 10 n).all Char.isDigit :=
    List.all_eq_true.mpr fun _ hc => Nat.isDigit_of_mem_toDigits (by decide) (by decide) hc
  simp only [wordNumber?, ne_eq, Nat.toDigits_ne_nil, not_false_eq_true, hdigits, and_self,
    ↓reduceIte, Nat.ofDigitChars_ten_toDigits]

/-- The first number that is a word of a text, the words being parted by blanks. -/
def firstNumber? (text : List Char) : Option Nat :=
  (text.splitOn ' ').findSome? wordNumber?

theorem firstNumber?_append_cons (before after : List Char) :
    firstNumber? (before ++ ' ' :: after) = (firstNumber? before).or (firstNumber? after) := by
  simp only [firstNumber?, List.splitOn_eq_splitOnP]
  rw [List.splitOnP_append_cons _ _ (by decide), List.findSome?_append]

theorem firstNumber?_of_no_blank {word : List Char} (h : ' ' ∉ word) :
    firstNumber? word = wordNumber? word := by
  have hword : ∀ c ∈ word, (c == ' ') = false := fun c hc =>
    beq_eq_false_iff_ne.mpr fun heq => h (heq ▸ hc)
  rw [firstNumber?, List.splitOn_eq_splitOnP, List.splitOnP_eq_singleton hword,
    List.findSome?_singleton]

theorem firstNumber?_toDigits (n : Nat) : firstNumber? (Nat.toDigits 10 n) = some n := by
  rw [firstNumber?_of_no_blank, wordNumber?_toDigits]
  intro hmem
  have hdigit := Nat.isDigit_of_mem_toDigits (by decide) (by decide) hmem
  exact absurd hdigit (by decide)

namespace Issue

/-- The first number that is a word of the description. -/
def count? (i : Issue) : Option Nat :=
  firstNumber? i.description.toList

/-- A count among the words of a description is read back if no word before it is a number. -/
theorem count?_of_description {i : Issue} {before after : String} {n : Nat}
    (h : i.description = before ++ toString n ++ after) (words : List Char) {rest : List Char}
    (hbefore : before.toList = words ++ [' ']) (hwords : firstNumber? words = none)
    (hafter : after.toList = ' ' :: rest) : i.count? = some n := by
  simp only [count?, h, String.toList_append, hbefore, hafter, Nat.toString_eq_ofList_toDigits,
    String.toList_ofList, List.append_assoc, List.cons_append, List.nil_append]
  rw [firstNumber?_append_cons, hwords, Option.none_or, firstNumber?_append_cons,
    firstNumber?_toDigits, Option.some_or]

theorem count?_of_found {i : Issue} {after : String} {rest : List Char} {n : Nat}
    (h : i.description = "Found " ++ toString n ++ after) (hafter : after.toList = ' ' :: rest) :
    i.count? = some n :=
  count?_of_description h "Found".toList rfl rfl hafter

end Issue

end PageAudit
