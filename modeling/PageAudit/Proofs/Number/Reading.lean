import PageAudit.Number.Notation
import PageAudit.Proofs.Number.Overflow
import PageAudit.Proofs.Text.Edges

/-!
# The texts that are numbers

A number is given by a sign, which may be absent, and a word or a decimal number. Blanks around it,
the script of its digits and underscores between them are looked through (`Spells`). The texts that
can be read are those that give a number, and what is read is the number nearest to the one given
(`parse?_eq_some_iff`). No finite number is near to a word, or beyond the border where the finite
numbers end (`Numeral.isUnbounded_nearest`).
-/

namespace PageAudit.Double

/-- A number as a text gives it. A decimal number is a coefficient times a power of ten. -/
inductive Numeral where
  | decimal (negative : Bool) (coefficient : Nat) (exponent : Int)
  | infinite (negative : Bool)
  | notANumber
  deriving DecidableEq, Repr

/-- The number nearest to the one given. -/
def Numeral.nearest : Numeral → Double
  | decimal negative coefficient exponent => ofDecimal negative coefficient exponent
  | infinite negative => .infinite negative
  | notANumber => .notANumber

/-- No finite number is near: it is no number, or beyond the border and without a minus sign. -/
def Numeral.IsUnbounded : Numeral → Prop
  | decimal negative coefficient exponent =>
    negative = false ∧ limit ≤ (coefficient : ℚ) * 10 ^ exponent
  | infinite negative => negative = false
  | notANumber => True

theorem Numeral.isUnbounded_nearest : ∀ {v : Numeral}, v.nearest.IsUnbounded ↔ v.IsUnbounded
  | decimal .. => isUnbounded_ofDecimal
  | infinite _ => Iff.rfl
  | notANumber => Iff.rfl

/-- The sign in front of a number, and whether it is a minus. -/
inductive IsSign : List Char → Bool → Prop where
  | absent : IsSign [] false
  | plus : IsSign ['+'] false
  | minus : IsSign ['-'] true

/-- The exponent behind the digits. -/
inductive IsExponent : List Char → Int → Prop where
  | absent : IsExponent [] 0
  | present {mark : Char} {sign digits : List Char} {negative : Bool}
      (hmark : mark = 'e' ∨ mark = 'E') (hsign : IsSign sign negative) (hne : digits ≠ [])
      (hdigits : ∀ c ∈ digits, c.isDigit) :
      IsExponent (mark :: (sign ++ digits))
        (if negative then -Text.numeral 10 digits else Text.numeral 10 digits)

/-- Digits with a point among them or none, and an exponent. -/
inductive IsDecimal : List Char → Nat → Int → Prop where
  | whole {digits tail : List Char} {e : Int} (hne : digits ≠ [])
      (hdigits : ∀ c ∈ digits, c.isDigit) (htail : IsExponent tail e) :
      IsDecimal (digits ++ tail) (Text.numeral 10 digits) e
  | pointed {before after tail : List Char} {e : Int} (hne : before ≠ [] ∨ after ≠ [])
      (hbefore : ∀ c ∈ before, c.isDigit) (hafter : ∀ c ∈ after, c.isDigit)
      (htail : IsExponent tail e) :
      IsDecimal (before ++ '.' :: (after ++ tail)) (Text.numeral 10 (before ++ after))
        (e - after.length)

/-- A number without its sign. -/
inductive IsUnsigned (negative : Bool) (s : List Char) : Numeral → Prop where
  | decimal {coefficient : Nat} {exponent : Int} (h : IsDecimal s coefficient exponent) :
      IsUnsigned negative s (.decimal negative coefficient exponent)
  | infinite (h : s.map Char.toLower = "inf".toList ∨ s.map Char.toLower = "infinity".toList) :
      IsUnsigned negative s (.infinite negative)
  | notANumber (h : s.map Char.toLower = "nan".toList) : IsUnsigned negative s .notANumber

/-- The second text is the first without its underscores, each of which stands between digits. -/
structure Underscored (s plain : List Char) : Prop where
  filter : s.filter (· ≠ '_') = plain
  between : ∀ before after, s = before ++ '_' :: after →
    (∃ c ∈ before.getLast?, c.isDigit) ∧ ∃ c ∈ after.head?, c.isDigit

/-- The text gives the number. -/
inductive Spells (s : String) : Numeral → Prop where
  | intro {core sign unsigned : List Char} {negative : Bool} {v : Numeral}
      (hcore : Text.IsCore isPadding (s.toList.map plainChar) core)
      (hplain : Underscored core (sign ++ unsigned)) (hsign : IsSign sign negative)
      (hunsigned : IsUnsigned negative unsigned v) : Spells s v

/-! ## Underscores -/

/-- Every underscore stands between digits, with a character known to stand in front. -/
def Between (previous : Char) (s : List Char) : Prop :=
  ∀ before after, s = before ++ '_' :: after →
    (∃ c ∈ (previous :: before).getLast?, c.isDigit) ∧ ∃ c ∈ after.head?, c.isDigit

theorem between_nil (previous : Char) : Between previous [] := by
  intro before after h
  simp at h

theorem between_cons {previous c : Char} {s : List Char} :
    Between previous (c :: s)
      ↔ (c = '_' → previous.isDigit ∧ ∃ d ∈ s.head?, d.isDigit) ∧ Between c s := by
  constructor
  · refine fun h => ⟨?_, fun before after hs => ?_⟩
    · rintro rfl
      simpa using h [] s rfl
    · have hbetween := h (c :: before) after (by rw [hs, List.cons_append])
      rwa [List.getLast?_cons_cons] at hbetween
  · rintro ⟨hc, h⟩ before after hs
    cases before with
    | nil =>
      obtain ⟨rfl, rfl⟩ := List.cons.inj hs
      simpa using hc rfl
    | cons d before =>
      obtain ⟨rfl, rfl⟩ := List.cons.inj hs
      rw [List.getLast?_cons_cons]
      exact h before after rfl

/-- If the character in front is an underscore itself, a digit has to come next. -/
theorem withoutUnderscores_eq_some_iff :
    ∀ {s plain : List Char} {previous : Char}, withoutUnderscores previous s = some plain
      ↔ s.filter (· ≠ '_') = plain ∧ Between previous s
        ∧ (previous = '_' → ∃ c ∈ s.head?, c.isDigit)
  | [], plain, previous => by
    unfold withoutUnderscores
    by_cases hprevious : previous = '_' <;> simp [hprevious, between_nil]
  | c :: s, plain, previous => by
    unfold withoutUnderscores
    rw [between_cons]
    by_cases hc : c = '_'
    · subst hc
      have hunder : ('_').isDigit = false := by decide
      by_cases hdigit : previous.isDigit
      · have hprevious : previous ≠ '_' := by
          rintro rfl
          simp [hunder] at hdigit
        simp only [BEq.rfl, ↓reduceIte, hdigit, withoutUnderscores_eq_some_iff (s := s)]
        simp [hprevious]
        tauto
      · simp [hdigit]
    · by_cases hprevious : previous = '_'
      · by_cases hdigit : c.isDigit
        · simp [hc, hprevious, hdigit, withoutUnderscores_eq_some_iff (s := s),
            Option.map_eq_some_iff]
          exact and_comm
        · simp [hc, hprevious, hdigit]
      · simp [hc, hprevious, withoutUnderscores_eq_some_iff (s := s), Option.map_eq_some_iff]
        exact and_comm

theorem withoutUnderscores_blank_eq_some_iff {s plain : List Char} :
    withoutUnderscores ' ' s = some plain ↔ Underscored s plain := by
  -- A blank in front counts as little as the front itself.
  have hfront : ∀ before : List Char, (∃ c ∈ (' ' :: before).getLast?, c.isDigit)
      ↔ ∃ c ∈ before.getLast?, c.isDigit := by
    intro before
    cases before with
    | nil => simp
    | cons c before => rw [List.getLast?_cons_cons]
  rw [withoutUnderscores_eq_some_iff]
  unfold Between
  simp only [hfront]
  constructor
  · rintro ⟨hfilter, hbetween, -⟩
    exact ⟨hfilter, hbetween⟩
  · rintro ⟨hfilter, hbetween⟩
    exact ⟨hfilter, hbetween, fun h => absurd h (by decide)⟩

/-! ## Signs and digits -/

theorem exists_of_readSign {s rest : List Char} {negative : Bool}
    (h : readSign s = (negative, rest)) : ∃ sign, s = sign ++ rest ∧ IsSign sign negative := by
  unfold readSign at h
  split at h <;> cases h
  · exact ⟨['-'], rfl, .minus⟩
  · exact ⟨['+'], rfl, .plus⟩
  · exact ⟨[], rfl, .absent⟩

theorem readSign_append {sign rest : List Char} {negative : Bool} (hsign : IsSign sign negative)
    (hrest : ∀ c ∈ rest.head?, c ≠ '-' ∧ c ≠ '+') :
    readSign (sign ++ rest) = (negative, rest) := by
  cases hsign with
  | plus => rfl
  | minus => rfl
  | absent =>
    unfold readSign
    split
    · exact absurd rfl (hrest '-' (by simp_all)).1
    · exact absurd rfl (hrest '+' (by simp_all)).2
    · rfl

theorem ne_sign_of_isDigit {c : Char} (h : c.isDigit) : c ≠ '-' ∧ c ≠ '+' := by
  constructor <;> rintro rfl <;> revert h <;> decide

theorem readExponent?_eq_some_iff {s : List Char} {e : Int} :
    readExponent? s = some e ↔ IsExponent s e := by
  constructor
  · intro h
    unfold readExponent? at h
    split at h
    · cases h
      exact .absent
    · rename_i mark s
      rcases hread : readSign s with ⟨negative, digits⟩
      rw [hread] at h
      dsimp only at h
      by_cases hmark : mark == 'e' || mark == 'E'
      case neg => simp [hmark] at h
      by_cases hbad : digits.isEmpty || !digits.all Char.isDigit
      case pos => simp [hbad] at h
      rw [if_pos hmark, if_neg hbad] at h
      cases h
      obtain ⟨sign, rfl, hsign⟩ := exists_of_readSign hread
      simp only [Bool.or_eq_true, beq_iff_eq] at hmark
      simp only [Bool.or_eq_true, List.isEmpty_iff, Bool.not_eq_true', not_or,
        Bool.not_eq_false, List.all_eq_true] at hbad
      exact .present hmark hsign hbad.1 hbad.2
  · intro h
    cases h with
    | absent => rfl
    | present hmark hsign hne hdigits =>
      rename_i mark sign digits negative
      have hhead : ∀ c ∈ digits.head?, c ≠ '-' ∧ c ≠ '+' := fun c hc =>
        ne_sign_of_isDigit (hdigits c (List.mem_of_mem_head? hc))
      unfold readExponent?
      simpa [hmark, readSign_append hsign hhead, hne] using hdigits

theorem IsExponent.mark {s : List Char} {e : Int} (h : IsExponent s e) :
    ∀ c ∈ s.head?, c = 'e' ∨ c = 'E' := by
  cases h with
  | absent => simp
  | present hmark => simpa using hmark

theorem takeWhile_dropWhile_digits {digits tail : List Char} (hdigits : ∀ c ∈ digits, c.isDigit)
    (htail : ∀ c ∈ tail.head?, ¬ c.isDigit) :
    (digits ++ tail).takeWhile Char.isDigit = digits
      ∧ (digits ++ tail).dropWhile Char.isDigit = tail := by
  rw [List.takeWhile_append_of_pos hdigits, List.dropWhile_append_of_pos hdigits]
  cases tail with
  | nil => simp
  | cons c tail =>
    have hc : ¬ c.isDigit := htail c rfl
    simp [hc]

theorem IsExponent.takeWhile_dropWhile {digits tail : List Char} {e : Int}
    (h : IsExponent tail e) (hdigits : ∀ c ∈ digits, c.isDigit) :
    (digits ++ tail).takeWhile Char.isDigit = digits
      ∧ (digits ++ tail).dropWhile Char.isDigit = tail := by
  refine takeWhile_dropWhile_digits hdigits fun c hc => ?_
  rcases h.mark c hc with rfl | rfl <;> decide

/-! ## Numbers -/

section Decimal

variable {negative : Bool} {s : List Char}

theorem readDecimal?_of_pointed {t : List Char} (hs : s.dropWhile Char.isDigit = '.' :: t) :
    readDecimal? negative s
      = if s.takeWhile Char.isDigit = [] ∧ t.takeWhile Char.isDigit = [] then none
        else (readExponent? (t.dropWhile Char.isDigit)).map fun e => ofDecimal negative
          (Text.numeral 10 (s.takeWhile Char.isDigit ++ t.takeWhile Char.isDigit))
          (e - (t.takeWhile Char.isDigit).length) := by
  unfold readDecimal?
  rw [hs]
  simp only [Bool.and_eq_true, List.isEmpty_iff]

theorem readDecimal?_of_whole (hs : ∀ t, s.dropWhile Char.isDigit ≠ '.' :: t) :
    readDecimal? negative s
      = if s.takeWhile Char.isDigit = [] then none
        else (readExponent? (s.dropWhile Char.isDigit)).map fun e =>
          ofDecimal negative (Text.numeral 10 (s.takeWhile Char.isDigit)) e := by
  unfold readDecimal?
  generalize s.dropWhile Char.isDigit = rest at hs ⊢
  split
  rename_i places tail hmatch
  split at hmatch
  · rename_i t
    exact absurd rfl (hs t)
  · cases hmatch
    simp

theorem exists_of_readDecimal? {d : Double} (h : readDecimal? negative s = some d) :
    ∃ coefficient exponent, IsDecimal s coefficient exponent
      ∧ ofDecimal negative coefficient exponent = d := by
  have hsplit (t : List Char) : t = t.takeWhile Char.isDigit ++ t.dropWhile Char.isDigit :=
    List.takeWhile_append_dropWhile.symm
  have hdigits (t : List Char) : ∀ c ∈ t.takeWhile Char.isDigit, c.isDigit :=
    fun c hc => List.mem_takeWhile_imp hc
  by_cases hpoint : ∃ t, s.dropWhile Char.isDigit = '.' :: t
  · obtain ⟨t, ht⟩ := hpoint
    rw [readDecimal?_of_pointed ht] at h
    split_ifs at h with hempty
    obtain ⟨e, he, rfl⟩ := Option.map_eq_some_iff.1 h
    refine ⟨_, _, ?_, rfl⟩
    have hdecimal := IsDecimal.pointed (not_and_or.1 hempty) (hdigits s) (hdigits t)
      (readExponent?_eq_some_iff.1 he)
    rwa [← hsplit t, ← ht, ← hsplit s] at hdecimal
  · have hwhole : ∀ t, s.dropWhile Char.isDigit ≠ '.' :: t := not_exists.1 hpoint
    rw [readDecimal?_of_whole hwhole] at h
    split_ifs at h with hempty
    obtain ⟨e, he, rfl⟩ := Option.map_eq_some_iff.1 h
    refine ⟨_, _, ?_, rfl⟩
    have hdecimal := IsDecimal.whole hempty (hdigits s) (readExponent?_eq_some_iff.1 he)
    rwa [← hsplit s] at hdecimal

theorem IsDecimal.readDecimal?_eq {coefficient : Nat} {exponent : Int}
    (h : IsDecimal s coefficient exponent) (negative : Bool) :
    readDecimal? negative s = some (ofDecimal negative coefficient exponent) := by
  cases h with
  | @whole digits tail _ hne hdigits htail =>
    obtain ⟨htake, hdrop⟩ := htail.takeWhile_dropWhile hdigits
    have hpoint : ∀ t, tail ≠ '.' :: t := by
      rintro t rfl
      rcases htail.mark '.' rfl with h | h <;> cases h
    rw [readDecimal?_of_whole (by rwa [hdrop]), htake, hdrop, if_neg hne,
      readExponent?_eq_some_iff.2 htail, Option.map_some]
  | @pointed before after tail e hne hbefore hafter htail =>
    have hpoint : ∀ c ∈ ('.' :: (after ++ tail)).head?, ¬ c.isDigit := by simp
    obtain ⟨htake, hdrop⟩ := takeWhile_dropWhile_digits hbefore hpoint
    obtain ⟨htake', hdrop'⟩ := htail.takeWhile_dropWhile hafter
    rw [readDecimal?_of_pointed hdrop, htake, htake', hdrop', if_neg (not_and_or.2 hne),
      readExponent?_eq_some_iff.2 htail, Option.map_some]

theorem readDecimal?_eq_some_iff {d : Double} :
    readDecimal? negative s = some d
      ↔ ∃ coefficient exponent, IsDecimal s coefficient exponent
        ∧ ofDecimal negative coefficient exponent = d := by
  refine ⟨exists_of_readDecimal?, ?_⟩
  rintro ⟨coefficient, exponent, h, rfl⟩
  exact h.readDecimal?_eq negative

/-- A decimal number begins with a digit or a point, and so none is a word. -/
theorem IsDecimal.head {coefficient : Nat} {exponent : Int} (h : IsDecimal s coefficient exponent) :
    ∃ c ∈ s.head?, c.isDigit ∨ c = '.' := by
  cases h with
  | @whole digits _ _ hne hdigits _ =>
    cases digits with
    | nil => exact absurd rfl hne
    | cons c digits => exact ⟨c, rfl, .inl (hdigits c (by simp))⟩
  | @pointed before _ _ _ _ hbefore _ _ =>
    cases before with
    | nil => exact ⟨'.', rfl, .inr rfl⟩
    | cons c before => exact ⟨c, rfl, .inl (hbefore c (by simp))⟩

theorem IsDecimal.map_toLower_ne {coefficient : Nat} {exponent : Int} {word : String}
    (h : IsDecimal s coefficient exponent)
    (hword : word = "inf" ∨ word = "infinity" ∨ word = "nan") :
    s.map Char.toLower ≠ word.toList := by
  intro hs
  obtain ⟨c, hc, hstart⟩ := h.head
  have hlower : c.toLower ∈ word.toList.head? := by
    rw [← hs, List.head?_map]
    exact Option.mem_map_of_mem _ hc
  have hsame : c.toLower = c := by
    rcases hstart with hdigit | rfl
    · unfold Char.toLower
      rw [dif_neg]
      simp only [Char.isDigit, Bool.and_eq_true, decide_eq_true_eq] at hdigit
      exact fun hupper => absurd (UInt32.le_trans hupper.1 hdigit.2) (by decide)
    · decide
  rw [hsame] at hlower
  rcases hword with rfl | rfl | rfl <;> cases hlower <;> revert hstart <;> decide

theorem readUnsigned?_eq_some_iff {d : Double} :
    readUnsigned? negative s = some d ↔ ∃ v, IsUnsigned negative s v ∧ v.nearest = d := by
  have hword (word : String) :
      String.ofList (s.map Char.toLower) = word ↔ s.map Char.toLower = word.toList := by
    rw [← String.toList_inj, String.toList_ofList]
  unfold readUnsigned?
  simp only [Bool.or_eq_true, beq_iff_eq, hword]
  constructor
  · intro h
    split_ifs at h with hinfinite hnan
    · cases h
      exact ⟨_, .infinite hinfinite, rfl⟩
    · cases h
      exact ⟨_, .notANumber hnan, rfl⟩
    · obtain ⟨coefficient, exponent, hdecimal, rfl⟩ := readDecimal?_eq_some_iff.1 h
      exact ⟨_, .decimal hdecimal, rfl⟩
  · rintro ⟨v, h, rfl⟩
    cases h with
    | decimal h =>
      rw [if_neg, if_neg, readDecimal?_eq_some_iff]
      · exact ⟨_, _, h, rfl⟩
      · exact h.map_toLower_ne (.inr (.inr rfl))
      · exact not_or.2 ⟨h.map_toLower_ne (.inl rfl), h.map_toLower_ne (.inr (.inl rfl))⟩
    | infinite h =>
      rw [if_pos h]
      rfl
    | notANumber h =>
      rw [if_neg, if_pos h]
      · rfl
      · rw [h]
        decide

theorem IsUnsigned.head {v : Numeral} (h : IsUnsigned negative s v) :
    ∀ c ∈ s.head?, c ≠ '-' ∧ c ≠ '+' := by
  intro c hc
  have hword {word : List Char} (hs : s.map Char.toLower = word) : c.toLower ∈ word.head? := by
    rw [← hs, List.head?_map]
    exact Option.mem_map_of_mem _ hc
  cases h with
  | decimal h =>
    obtain ⟨c', hc', hstart⟩ := h.head
    obtain rfl : c' = c := Option.mem_unique hc' hc
    rcases hstart with hdigit | rfl
    · exact ne_sign_of_isDigit hdigit
    · decide
  | infinite h =>
    rcases h with h | h <;> have hlower := hword h <;>
      constructor <;> rintro rfl <;> revert hlower <;> decide
  | notANumber h =>
    have hlower := hword h
    constructor <;> rintro rfl <;> revert hlower <;> decide

end Decimal

/-- A text can be read if it gives a number, and then the nearest number is read. -/
theorem parse?_eq_some_iff {s : String} {d : Double} :
    parse? s = some d ↔ ∃ v, Spells s v ∧ v.nearest = d := by
  unfold parse?
  simp only [Option.bind_eq_bind, Option.bind_eq_some_iff]
  constructor
  · rintro ⟨plain, hplain, h⟩
    rw [withoutUnderscores_blank_eq_some_iff] at hplain
    rcases hread : readSign plain with ⟨negative, unsigned⟩
    rw [hread] at h
    obtain ⟨sign, rfl, hsign⟩ := exists_of_readSign hread
    obtain ⟨v, hunsigned, hv⟩ := readUnsigned?_eq_some_iff.1 h
    exact ⟨v, .intro (Text.isCore_dropEdges _ _) hplain hsign hunsigned, hv⟩
  · rintro ⟨v, ⟨hcore, hplain, hsign, hunsigned⟩, hv⟩
    rw [Text.isCore_iff] at hcore
    rw [hcore] at hplain
    refine ⟨_, withoutUnderscores_blank_eq_some_iff.2 hplain, ?_⟩
    rw [readSign_append hsign hunsigned.head]
    exact readUnsigned?_eq_some_iff.2 ⟨v, hunsigned, hv⟩

example : parse? "\t+1_٠e٣09 " = some (.infinite false) := by decide +kernel

end PageAudit.Double
