import Mathlib.Algebra.Order.Field.Power
import Mathlib.Tactic.FieldSimp
import Mathlib.Tactic.Linarith
import Mathlib.Tactic.Ring
import PageAudit.Proofs.Number.Duration

/-!
# Where the finite numbers end

A fraction is rounded to the nearest number, and the nearest to a fraction beyond all finite numbers
is an infinity. The border is half a bit after the greatest finite number: rounding a half to the
even significand carries the border itself over (`ofRatio_eq_infinite_iff`). The two shortcuts for
decimal numbers with very many digits before the point, or noughts after it, are on the right sides
of the border (`ofDecimal_eq_infinite_iff`).
-/

namespace PageAudit.Double

/-- The least number that is rounded to an infinity. -/
def limit : ℚ :=
  (2 ^ 54 - 1) * 2 ^ (970 : ℤ)

variable {num den : ℕ} {e : ℤ}

/-! ## Quotients -/

/-- An even number is reached by rounding up from the half before it, that half included. -/
theorem le_roundDiv_iff {m : ℕ} (hden : den ≠ 0) (hm : m % 2 = 0) :
    m ≤ roundDiv num den ↔ 2 * (m * den) ≤ 2 * num + den := by
  have hnum : num = num / den * den + num % den := (Nat.div_add_mod' num den).symm
  have hlt : num % den < den := Nat.mod_lt _ (Nat.pos_of_ne_zero hden)
  unfold roundDiv
  generalize num / den = q at *
  generalize num % den = r at *
  simp only [Bool.or_eq_true, Bool.and_eq_true, decide_eq_true_eq, beq_iff_eq]
  rcases Nat.lt_trichotomy m (q + 1) with hlt' | rfl | hgt
  · have hle : m * den ≤ q * den := Nat.mul_le_mul_right den (by omega)
    have hround : m ≤ if 2 * r < den ∨ 2 * r = den ∧ q % 2 = 0 then q else q + 1 := by
      split_ifs <;> omega
    exact iff_of_true hround (by omega)
  · have hsucc : (q + 1) * den = q * den + den := Nat.succ_mul q den
    split_ifs <;> omega
  · have hle : (q + 2) * den ≤ m * den := Nat.mul_le_mul_right den hgt
    have hsucc : (q + 2) * den = q * den + 2 * den := Nat.add_mul q 2 den
    split_ifs <;> omega

theorem roundDiv_le {m : ℕ} (h : num < m * den) : roundDiv num den ≤ m := by
  have hlt : num / den < m := Nat.div_lt_of_lt_mul (by rwa [Nat.mul_comm])
  unfold roundDiv
  dsimp only
  split_ifs <;> omega

theorem scaled_pos (hden : den ≠ 0) : (scaled num den e).2 ≠ 0 := by
  unfold scaled
  split_ifs
  · exact hden
  · simpa using hden

theorem scaled_div (num den : ℕ) (e : ℤ) :
    ((scaled num den e).1 : ℚ) / (scaled num den e).2 = num / den / 2 ^ e := by
  unfold scaled
  split_ifs with he
  · obtain ⟨k, rfl⟩ : ∃ k : ℕ, e = -k := ⟨e.natAbs, by omega⟩
    simp only [neg_neg, Int.toNat_natCast, Nat.pow_eq, Nat.cast_mul, Nat.cast_pow, Nat.cast_ofNat,
      zpow_neg, zpow_natCast, div_inv_eq_mul]
    ring
  · obtain ⟨k, rfl⟩ : ∃ k : ℕ, e = k := ⟨e.toNat, by omega⟩
    simp only [Int.toNat_natCast, Nat.pow_eq, Nat.cast_mul, Nat.cast_pow, Nat.cast_ofNat,
      zpow_natCast, div_div]

/-- The quotient at a scale, compared with a whole number. -/
theorem scaled_lt_iff (hden : den ≠ 0) {m : ℕ} :
    (scaled num den e).1 < (scaled num den e).2 * m ↔ (num : ℚ) / den < m * 2 ^ e := by
  have hpos : (0 : ℚ) < (scaled num den e).2 := by
    exact_mod_cast Nat.pos_of_ne_zero (scaled_pos hden)
  have htwo : (0 : ℚ) < 2 ^ e := by positivity
  rw [← div_lt_iff₀ htwo, ← scaled_div, div_lt_iff₀ hpos]
  norm_cast
  rw [Nat.mul_comm]

/-! ## Exponents -/

theorem two_zpow_add (e : ℤ) (k : ℕ) : (2 : ℚ) ^ (e + k) = 2 ^ k * 2 ^ e := by
  rw [zpow_add₀ two_ne_zero, zpow_natCast, mul_comm]

theorem scaled_lt_two_pow_iff (hden : den ≠ 0) {k : ℕ} :
    (scaled num den e).1 < (scaled num den e).2 * 2 ^ k ↔ (num : ℚ) / den < 2 ^ (e + k) := by
  rw [scaled_lt_iff hden, two_zpow_add, Nat.cast_pow, Nat.cast_ofNat]

/-- A quotient lies between two powers of two that are two apart. -/
theorem log2_bounds (hnum : num ≠ 0) (hden : den ≠ 0) :
    (2 : ℚ) ^ ((num.log2 : ℤ) - den.log2 - 1) < num / den
      ∧ (num : ℚ) / den < 2 ^ ((num.log2 : ℤ) - den.log2 + 1) := by
  have hpos : (0 : ℚ) < den := by exact_mod_cast Nat.pos_of_ne_zero hden
  have hnumLow : (2 : ℚ) ^ (num.log2 : ℤ) ≤ num := by exact_mod_cast Nat.log2_self_le hnum
  have hnumHigh : (num : ℚ) < 2 ^ (num.log2 + 1 : ℤ) := by exact_mod_cast Nat.lt_log2_self
  have hdenLow : (2 : ℚ) ^ (den.log2 : ℤ) ≤ den := by exact_mod_cast Nat.log2_self_le hden
  have hdenHigh : (den : ℚ) < 2 ^ (den.log2 + 1 : ℤ) := by exact_mod_cast Nat.lt_log2_self
  constructor
  · rw [lt_div_iff₀ hpos]
    calc (2 : ℚ) ^ ((num.log2 : ℤ) - den.log2 - 1) * den
        < 2 ^ ((num.log2 : ℤ) - den.log2 - 1) * 2 ^ (den.log2 + 1 : ℤ) := by gcongr
      _ = 2 ^ (num.log2 : ℤ) := by
        rw [← zpow_add₀ two_ne_zero]
        congr 1
        ring
      _ ≤ num := hnumLow
  · rw [div_lt_iff₀ hpos]
    calc (num : ℚ) < 2 ^ (num.log2 + 1 : ℤ) := hnumHigh
      _ = 2 ^ ((num.log2 : ℤ) - den.log2 + 1) * 2 ^ (den.log2 : ℤ) := by
        rw [← zpow_add₀ two_ne_zero]
        congr 1
        ring
      _ ≤ 2 ^ ((num.log2 : ℤ) - den.log2 + 1) * den := by gcongr

/-- The significand of a quotient has 53 bits, or fewer if the exponent is the least. -/
theorem exponentOf_bounds (hnum : num ≠ 0) (hden : den ≠ 0) :
    (num : ℚ) / den < 2 ^ (exponentOf num den + 53)
      ∧ (exponentOf num den = leastExponent
        ∨ (2 : ℚ) ^ (exponentOf num den + 52) ≤ num / den) := by
  obtain ⟨hlow, hhigh⟩ := log2_bounds hnum hden
  obtain ⟨e, he⟩ : ∃ e : ℤ, e = (num.log2 : ℤ) - den.log2 - 53 := ⟨_, rfl⟩
  have hiff : (scaled num den e).1 < (scaled num den e).2 * 2 ^ 53
      ↔ (num : ℚ) / den < 2 ^ (e + 53) :=
    scaled_lt_two_pow_iff hden
  have hexponent : exponentOf num den
      = max leastExponent (if (num : ℚ) / den < 2 ^ (e + 53) then e else e + 1) := by
    unfold exponentOf
    simp only [precision, Nat.pow_eq, Nat.cast_ofNat, ← he, hiff]
  have hlow' : (2 : ℚ) ^ (e + 52) < num / den := by
    rwa [show e + 52 = (num.log2 : ℤ) - den.log2 - 1 by omega]
  have hhigh' : (num : ℚ) / den < 2 ^ (e + 54) := by
    rwa [show e + 54 = (num.log2 : ℤ) - den.log2 + 1 by omega]
  obtain ⟨t, ht, hlt, hge⟩ : ∃ t : ℤ, exponentOf num den = max leastExponent t
      ∧ (num : ℚ) / den < 2 ^ (t + 53) ∧ (2 : ℚ) ^ (t + 52) ≤ num / den := by
    refine ⟨_, hexponent, ?_⟩
    split_ifs with hsmall
    · exact ⟨hsmall, hlow'.le⟩
    · rw [show e + 1 + 53 = e + 54 by ring, show e + 1 + 52 = e + 53 by ring]
      exact ⟨hhigh', not_lt.1 hsmall⟩
  rw [ht]
  constructor
  · refine hlt.trans_le (zpow_le_zpow_right₀ one_le_two ?_)
    have := le_max_right leastExponent t
    omega
  · rcases le_total t leastExponent with hle | hle
    · exact .inl (max_eq_left hle)
    · rw [max_eq_right hle]
      exact .inr hge

/-! ## Infinities -/

theorem normal_eq_infinite_iff {negative negative' : Bool} {significand : ℕ} :
    normal negative significand e = infinite negative' ↔ negative' = negative
      ∧ (greatestExponent < e ∨ significand = 2 ^ 53 ∧ e = greatestExponent) := by
  unfold normal greatestExponent precision
  simp only [Nat.pow_eq, beq_iff_eq]
  by_cases hcarry : significand = 2 ^ 53
  · simp only [hcarry, ↓reduceIte, true_and]
    split_ifs with he
    · simp only [infinite.injEq]
      exact ⟨fun h => ⟨h.symm, by omega⟩, fun h => h.1.symm⟩
    · exact iff_of_false (by simp) fun h => he (by omega)
  · simp only [hcarry, ↓reduceIte, false_and, or_false]
    split_ifs with he
    · simp [he, eq_comm]
    · exact iff_of_false (by simp) fun h => he h.2

/-- The border lies between two powers of two. -/
theorem limit_bounds : (2 : ℚ) ^ (1023 : ℤ) < limit ∧ limit < 2 ^ (1024 : ℤ) := by
  have hpos : (0 : ℚ) < 2 ^ (970 : ℤ) := zpow_pos two_pos _
  have hlow : (2 : ℚ) ^ (1023 : ℤ) = 2 ^ 53 * 2 ^ (970 : ℤ) := two_zpow_add 970 53
  have hhigh : (2 : ℚ) ^ (1024 : ℤ) = 2 ^ 54 * 2 ^ (970 : ℤ) := two_zpow_add 970 54
  rw [hlow, hhigh, limit]
  generalize (2 : ℚ) ^ (970 : ℤ) = u at hpos ⊢
  constructor <;> linarith

theorem one_lt_limit : 1 < limit :=
  (one_le_zpow₀ one_le_two (by decide)).trans_lt limit_bounds.1

theorem limit_pos : 0 < limit :=
  one_pos.trans one_lt_limit

theorem lt_limit_of_lt {x : ℚ} (he : e < 971) (hx : x < 2 ^ (e + 53)) : x < limit := by
  calc x < 2 ^ (e + 53) := hx
    _ ≤ 2 ^ (1023 : ℤ) := zpow_le_zpow_right₀ one_le_two (by omega)
    _ < limit := limit_bounds.1

theorem limit_le_of_le {x : ℚ} (he : 971 < e) (hx : 2 ^ (e + 52) ≤ x) : limit ≤ x := by
  calc limit ≤ 2 ^ (1024 : ℤ) := limit_bounds.2.le
    _ ≤ 2 ^ (e + 52) := zpow_le_zpow_right₀ one_le_two (by omega)
    _ ≤ x := hx

/-- At the greatest exponent there is, the significand is carried over from the border on. -/
theorem roundDiv_scaled_eq_iff (hden : den ≠ 0) (he : e = 971)
    (hlt : (num : ℚ) / den < 2 ^ (e + 53)) :
    roundDiv (scaled num den e).1 (scaled num den e).2 = 2 ^ 53 ↔ limit ≤ (num : ℚ) / den := by
  have hdiv := scaled_div num den e
  have hpos : (0 : ℚ) < (scaled num den e).2 := by
    exact_mod_cast Nat.pos_of_ne_zero (scaled_pos hden)
  have hupper : roundDiv (scaled num den e).1 (scaled num den e).2 ≤ 2 ^ 53 := by
    refine roundDiv_le ?_
    rw [Nat.mul_comm]
    exact (scaled_lt_two_pow_iff hden).2 hlt
  have hcarry : roundDiv (scaled num den e).1 (scaled num den e).2 = 2 ^ 53
      ↔ 2 ^ 53 ≤ roundDiv (scaled num den e).1 (scaled num den e).2 :=
    ⟨fun h => h.ge, hupper.antisymm⟩
  rw [hcarry, le_roundDiv_iff (scaled_pos hden) (by decide)]
  have htwice : (2 : ℚ) ^ e = 2 ^ 1 * 2 ^ (970 : ℤ) := by
    rw [← two_zpow_add, he]
    rfl
  have hunit : (0 : ℚ) < 2 ^ (970 : ℤ) := zpow_pos two_pos _
  rw [htwice] at hdiv
  generalize (scaled num den e).1 = n at *
  generalize (scaled num den e).2 = d at *
  unfold limit
  generalize (2 : ℚ) ^ (970 : ℤ) = u at *
  have hx : (num : ℚ) / den = n / d * (2 * u) := by
    rw [hdiv]
    field_simp
  rw [hx, show (n : ℚ) / d * (2 * u) = 2 * n / d * u by ring, mul_le_mul_iff_left₀ hunit,
    le_div_iff₀ hpos]
  constructor
  · intro h
    have h' : (2 * (2 ^ 53 * d) : ℚ) ≤ 2 * n + d := by exact_mod_cast h
    linarith
  · intro h
    have h' : (2 * (2 ^ 53 * d) : ℚ) ≤ 2 * n + d := by linarith
    exact_mod_cast h'

/-- The exponent stands for itself here, so that it is not computed from its definition. -/
theorem exists_ofRatio_eq (hnum : num ≠ 0) (den : ℕ) (negative : Bool) :
    ∃ e, exponentOf num den = e ∧ ofRatio negative num den
      = normal negative (roundDiv (scaled num den e).1 (scaled num den e).2) e := by
  fun_cases ofRatio negative num den with
  | case1 hzero => exact absurd (by simpa using hzero) hnum
  | case2 _ e n d hscaled =>
    refine ⟨e, rfl, ?_⟩
    rw [hscaled]

theorem ofRatio_eq_infinite_iff (hden : den ≠ 0) {negative negative' : Bool} :
    ofRatio negative num den = infinite negative'
      ↔ negative' = negative ∧ limit ≤ (num : ℚ) / den := by
  by_cases hnum : num = 0
  · simp [ofRatio, hnum, signedZero, limit_pos]
  obtain ⟨hlt, hge⟩ := exponentOf_bounds hnum hden
  obtain ⟨e, he, hround⟩ := exists_ofRatio_eq hnum den negative
  rw [hround, normal_eq_infinite_iff]
  rw [he] at hlt hge
  refine and_congr_right fun _ => ?_
  unfold greatestExponent
  rcases lt_trichotomy e 971 with hsmall | heq | hlarge
  · -- There is room for the carry.
    exact iff_of_false (by omega) (not_le.2 (lt_limit_of_lt hsmall hlt))
  · -- All hangs on the rounding.
    rw [← roundDiv_scaled_eq_iff hden heq hlt]
    constructor
    · rintro (h | ⟨h, -⟩)
      · omega
      · exact h
    · exact fun h => .inr ⟨h, heq⟩
  · rcases hge with hleast | hge
    · unfold leastExponent at hleast
      omega
    · exact iff_of_true (.inl hlarge) (limit_le_of_le hlarge hge)

/-! ## Decimal numbers -/

/-- A number lies between the powers of ten that its digits tell. -/
theorem length_toDigits_bounds {n : ℕ} (hn : n ≠ 0) :
    (10 : ℚ) ^ ((Nat.toDigits 10 n).length - 1 : ℤ) ≤ n
      ∧ (n : ℚ) < 10 ^ ((Nat.toDigits 10 n).length : ℤ) := by
  have hpos : 0 < (Nat.toDigits 10 n).length := Nat.length_toDigits_pos
  constructor
  · rcases Nat.lt_or_ge 1 (Nat.toDigits 10 n).length with hlong | hshort
    · have hle : 10 ^ ((Nat.toDigits 10 n).length - 1) ≤ n := by
        have hnot := mt (Nat.length_toDigits_le_iff (b := 10) (n := n)
          (k := (Nat.toDigits 10 n).length - 1) (by decide) (by omega)).2 (by omega)
        exact not_lt.1 hnot
      have hcast : ((Nat.toDigits 10 n).length - 1 : ℤ)
          = ((Nat.toDigits 10 n).length - 1 : ℕ) := by omega
      rw [hcast, zpow_natCast]
      exact_mod_cast hle
    · have hone : (Nat.toDigits 10 n).length = 1 := by omega
      rw [hone]
      have hle : 1 ≤ n := Nat.pos_of_ne_zero hn
      simpa using (by exact_mod_cast hle : (1 : ℚ) ≤ n)
  · have hlt := (Nat.length_toDigits_le_iff (b := 10) (n := n) (by decide) hpos).1 le_rfl
    rw [zpow_natCast]
    exact_mod_cast hlt

theorem limit_le_ten_zpow : limit ≤ 10 ^ (tooLarge : ℤ) := by
  have htwo : (2 : ℚ) ^ (1025 : ℤ) = (2 ^ 205) ^ 5 := by
    rw [← pow_mul]
    rfl
  have hten : ((10 : ℚ) ^ 62) ^ 5 = 10 ^ (tooLarge : ℤ) := by
    rw [← pow_mul, ← zpow_natCast]
    rfl
  calc limit ≤ 2 ^ (1024 : ℤ) := limit_bounds.2.le
    _ ≤ 2 ^ (1025 : ℤ) := zpow_le_zpow_right₀ one_le_two (by decide)
    _ = (2 ^ 205) ^ 5 := htwo
    _ ≤ (10 ^ 62) ^ 5 := pow_le_pow_left₀ (by positivity) (by norm_num) 5
    _ = 10 ^ (tooLarge : ℤ) := hten

theorem ofDecimal_eq_infinite_iff {negative negative' : Bool} {coefficient : ℕ} {exponent : ℤ} :
    ofDecimal negative coefficient exponent = infinite negative'
      ↔ negative' = negative ∧ limit ≤ (coefficient : ℚ) * 10 ^ exponent := by
  unfold ofDecimal
  by_cases hzero : coefficient = 0
  · simp [hzero, signedZero, limit_pos]
  obtain ⟨hlow, hhigh⟩ := length_toDigits_bounds hzero
  generalize (Nat.toDigits 10 coefficient).length = n at hlow hhigh ⊢
  have hten : (0 : ℚ) < 10 ^ exponent := by positivity
  simp only [beq_iff_eq, hzero, Bool.or_eq_true, false_or, decide_eq_true_eq]
  split_ifs with hsmall hlarge hneg
  · -- Fewer than one.
    refine iff_of_false (by simp [signedZero]) fun h => not_lt.2 h.2 (one_lt_limit.trans' ?_)
    calc (coefficient : ℚ) * 10 ^ exponent < 10 ^ (n : ℤ) * 10 ^ exponent := by gcongr
      _ = 10 ^ (n + exponent) := (zpow_add₀ (by norm_num) _ _).symm
      _ ≤ 1 := zpow_le_one_of_nonpos₀ (by norm_num) (by unfold tooSmall at hsmall; omega)
  · have hbeyond : limit ≤ (coefficient : ℚ) * 10 ^ exponent := by
      calc limit ≤ 10 ^ (tooLarge : ℤ) := limit_le_ten_zpow
        _ ≤ 10 ^ (n - 1 + exponent) := zpow_le_zpow_right₀ (by norm_num) (by omega)
        _ = 10 ^ (n - 1 : ℤ) * 10 ^ exponent := zpow_add₀ (by norm_num) _ _
        _ ≤ coefficient * 10 ^ exponent := by gcongr
    simp [hbeyond, eq_comm]
  · obtain ⟨k, rfl⟩ : ∃ k : ℕ, exponent = -k := ⟨exponent.natAbs, by omega⟩
    rw [ofRatio_eq_infinite_iff (by simp)]
    simp [zpow_neg, div_eq_mul_inv]
  · obtain ⟨k, rfl⟩ : ∃ k : ℕ, exponent = k := ⟨exponent.toNat, by omega⟩
    rw [ofRatio_eq_infinite_iff (by decide)]
    simp

theorem normal_ne_notANumber (negative : Bool) (significand : ℕ) (e : ℤ) :
    normal negative significand e ≠ notANumber := by
  unfold normal
  split
  split_ifs <;> simp

theorem ofRatio_ne_notANumber (negative : Bool) (num den : ℕ) :
    ofRatio negative num den ≠ notANumber := by
  by_cases hnum : num = 0
  · simp [ofRatio, hnum, signedZero]
  · obtain ⟨e, -, hround⟩ := exists_ofRatio_eq hnum den negative
    rw [hround]
    exact normal_ne_notANumber _ _ _

theorem ofDecimal_ne_notANumber (negative : Bool) (coefficient : ℕ) (exponent : ℤ) :
    ofDecimal negative coefficient exponent ≠ notANumber := by
  unfold ofDecimal
  dsimp only
  split_ifs
  · simp [signedZero]
  · simp
  · exact ofRatio_ne_notANumber _ _ _
  · exact ofRatio_ne_notANumber _ _ _

theorem isUnbounded_ofDecimal {negative : Bool} {coefficient : ℕ} {exponent : ℤ} :
    (ofDecimal negative coefficient exponent).IsUnbounded
      ↔ negative = false ∧ limit ≤ (coefficient : ℚ) * 10 ^ exponent := by
  rw [eq_comm (a := negative), ← ofDecimal_eq_infinite_iff]
  have hnumber := ofDecimal_ne_notANumber negative coefficient exponent
  generalize ofDecimal negative coefficient exponent = d at hnumber ⊢
  cases d with
  | finite => simp [IsUnbounded]
  | infinite => simp [IsUnbounded]
  | notANumber => exact absurd rfl hnumber

end PageAudit.Double
