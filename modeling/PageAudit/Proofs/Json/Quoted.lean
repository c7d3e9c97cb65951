import PageAudit.Json.Printer
import PageAudit.Json.Reader

/-!
# Reading a string back

However the characters of a string are escaped, reading it up to its closing quote gives the string
(`readString_quoted`). A character is read back from the units that its escape stands for: from
itself, or from two surrogates (`readUnits_char`).
-/

namespace PageAudit.Json

/-! ## Units -/

theorem hexDigits_four (n : Nat) :
    Text.hexDigits 4 n = [Text.hexDigit (n / 16 / 16 / 16 % 16), Text.hexDigit (n / 16 / 16 % 16),
      Text.hexDigit (n / 16 % 16), Text.hexDigit (n % 16)] := by
  simp only [Text.hexDigits, List.nil_append, List.cons_append]

theorem unitValue?_hexDigit {n : Nat} (h : n < 0x10000) :
    unitValue? (Text.hexDigit (n / 16 / 16 / 16 % 16)) (Text.hexDigit (n / 16 / 16 % 16))
      (Text.hexDigit (n / 16 % 16)) (Text.hexDigit (n % 16)) = some n := by
  have hvalue : ∀ m, Text.hexValue? (Text.hexDigit (m % 16)) = some (m % 16) := fun m =>
    Text.hexValue?_hexDigit _ (Nat.mod_lt _ (by decide))
  simp only [unitValue?, List.all_cons, List.all_nil, Text.isHexDigit, hvalue, Option.isSome_some,
    Bool.and_self, ↓reduceIte, Text.numeral, List.foldl_cons, List.foldl_nil, Option.getD_some,
    Option.some.injEq]
  omega

theorem readUnits_unitEscape {n : Nat} (h : n < 0x10000) (s : List Char) :
    readUnits (unitEscape n ++ s) = (readUnits s).map fun (ns, rest) => (n :: ns, rest) := by
  simp only [unitEscape, hexDigits_four, List.cons_append, List.nil_append, readUnits,
    unitValue?_hexDigit h]
  cases readUnits s <;> rfl

theorem joinUnits_cons_of_scalar {a : Nat} (h : ¬(0xD800 ≤ a ∧ a < 0xE000)) (ns : List Nat) :
    joinUnits (a :: ns) = Char.ofNat a :: joinUnits ns := by
  have hhigh : ¬(0xD800 ≤ a ∧ a < 0xDC00) := by omega
  cases ns with
  | nil => simp [joinUnits, h]
  | cons b ns =>
    rw [joinUnits]
    simp only [Bool.and_eq_true, decide_eq_true_eq]
    rw [if_neg (by omega), if_neg (by omega)]

theorem joinUnits_surrogates {n : Nat} (h : 0x10000 ≤ n) (hn : n < 0x110000) (ns : List Nat) :
    joinUnits ((0xD800 + (n - 0x10000) / 1024) :: (0xDC00 + (n - 0x10000) % 1024) :: ns)
      = Char.ofNat n :: joinUnits ns := by
  have hsum : 0x10000 + (0xD800 + (n - 0x10000) / 1024 - 0xD800) * 1024
      + (0xDC00 + (n - 0x10000) % 1024 - 0xDC00) = n := by omega
  rw [joinUnits]
  simp only [Bool.and_eq_true, decide_eq_true_eq]
  rw [if_pos (by omega), hsum]

theorem not_surrogate (c : Char) : ¬(0xD800 ≤ c.toNat ∧ c.toNat < 0xE000) := by
  rcases c.valid with h | h
  · have : c.toNat < 0xD800 := h
    omega
  · have : 0xDFFF < c.toNat := h.1
    omega

theorem joinUnits_toNat (c : Char) (ns : List Nat) :
    joinUnits (c.toNat :: ns) = c :: joinUnits ns := by
  rw [joinUnits_cons_of_scalar (not_surrogate c), Char.ofNat_toNat]

/-! ## Characters and strings -/

theorem readUnits_cons {c : Char} (hquote : c ≠ '"') (hslash : c ≠ '\\') (hc : ' ' ≤ c)
    (s : List Char) :
    readUnits (c :: s) = (readUnits s).map fun (ns, rest) => (c.toNat :: ns, rest) := by
  have hlow : ¬ c < ' ' := Char.not_lt.mpr hc
  rw [readUnits.eq_def]
  split
  · simp_all
  · simp_all
  · simp_all
  · simp_all
  · rename_i d t _ _ _ hd
    cases hd
    rw [if_neg hlow]
    cases readUnits s <;> rfl

theorem readUnits_simpleEscape {c d : Char} (h : simpleEscape? c = some d) (s : List Char) :
    readUnits ('\\' :: c :: s) = (readUnits s).map fun (ns, rest) => (d.toNat :: ns, rest) := by
  have hc : c ≠ 'u' := by
    rintro rfl
    cases h
  rw [readUnits]
  · simp only [h]
    cases readUnits s <;> rfl
  · intro a b c' d' t heq
    exact absurd heq hc

theorem readUnits_charEscape (c : Char) :
    ∃ us, (∀ s, readUnits (charEscape c ++ s)
        = (readUnits s).map fun (ns, rest) => (us ++ ns, rest))
      ∧ ∀ ns, joinUnits (us ++ ns) = c :: joinUnits ns := by
  have hmax : c.toNat < 0x110000 := by
    rcases c.valid with h | h
    · have : c.toNat < 0xD800 := h
      omega
    · exact h.2
  by_cases h : c.toNat < 0x10000
  · refine ⟨[c.toNat], fun s => ?_, fun ns => joinUnits_toNat c ns⟩
    simp only [charEscape, h, ↓reduceIte]
    rw [readUnits_unitEscape h]
    rfl
  · refine ⟨[0xD800 + (c.toNat - 0x10000) / 1024, 0xDC00 + (c.toNat - 0x10000) % 1024],
      fun s => ?_, fun ns => ?_⟩
    · simp only [charEscape, h, ↓reduceIte, List.append_assoc]
      rw [readUnits_unitEscape (by omega), readUnits_unitEscape (by omega), Option.map_map]
      rfl
    · have := joinUnits_surrogates (n := c.toNat) (by omega) hmax ns
      rw [Char.ofNat_toNat] at this
      exact this

theorem blank_le_of_isRaw {e : Escaping} {c : Char} (h : e.isRaw c) : ' ' ≤ c := by
  cases e <;> simp_all [Escaping.isRaw]

/-- The units that are read from the written form of a character join to that character. -/
theorem readUnits_char (e : Escaping) (c : Char) :
    ∃ us, (∀ s, readUnits (e.char c ++ s)
        = (readUnits s).map fun (ns, rest) => (us ++ ns, rest))
      ∧ ∀ ns, joinUnits (us ++ ns) = c :: joinUnits ns := by
  unfold Escaping.char
  split
  case h_8 =>
    split
    · rename_i hquote hslash _ _ _ _ _ hraw
      exact ⟨[c.toNat], readUnits_cons hquote hslash (blank_le_of_isRaw hraw), joinUnits_toNat c⟩
    · exact readUnits_charEscape c
  all_goals
    exact ⟨[_], fun s => readUnits_simpleEscape rfl s, joinUnits_toNat _⟩

theorem readUnits_flatMap_char (e : Escaping) (rest : List Char) :
    ∀ cs : List Char, ∃ us, readUnits (cs.flatMap e.char ++ '"' :: rest) = some (us, rest)
      ∧ joinUnits us = cs
  | [] => ⟨[], by simp [readUnits], rfl⟩
  | c :: cs => by
    obtain ⟨us, hread, hjoin⟩ := readUnits_char e c
    obtain ⟨ns, hrest, hcs⟩ := readUnits_flatMap_char e rest cs
    refine ⟨us ++ ns, ?_, ?_⟩
    · simp only [List.flatMap_cons, List.append_assoc, hread, hrest, Option.map_some]
    · rw [hjoin, hcs]

/-- A string is read back from its written form, whatever follows it. -/
theorem readString_quoted (e : Escaping) (s : String) (rest : List Char) :
    readString (s.toList.flatMap e.char ++ '"' :: rest) = some (s, rest) := by
  obtain ⟨us, hread, hjoin⟩ := readUnits_flatMap_char e rest s.toList
  simp [readString, hread, hjoin]

end PageAudit.Json
