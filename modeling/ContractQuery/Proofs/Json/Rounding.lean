import ContractQuery.Json.Binary64
import Mathlib.Algebra.Order.Field.Power
import Mathlib.Algebra.Order.Field.Rat
import Mathlib.Data.Nat.Log
import Mathlib.Tactic.Linarith
import Mathlib.Tactic.NormNum
import Mathlib.Tactic.Positivity
import Mathlib.Tactic.Ring

/-!
# How far a double is from what it was rounded from

Doubles are rounded from quotients of natural numbers. Here they are compared with these quotients, as
rational numbers.

* `Binary64.value`: the number that a double is.
* `scaled_div`, `exponentOf_spec`: the quotient is brought to at least `2^52` and less than `2^53`, if it
  is not so small that the least exponent comes first.
* **`nearest_spec`**: what is found is off by half of its last place, and is only missing if the quotient
  is as large as half a place beyond the largest double. `exists_nearest`, `abs_value_sub_le` and
  `value_le_of_nearest` say what the callers need of this.
* `exists_mul`, `exists_div`, **`exists_tenPow`**: products, quotients and powers of ten.
-/

namespace ContractQuery

namespace Binary64

variable {num den : Nat}

/-- The number that a double is. -/
def value (a : Binary64) : ℚ := a.mantissa * 2 ^ a.exponent

theorem value_nonneg (a : Binary64) : 0 ≤ a.value :=
  mul_nonneg (Nat.cast_nonneg _) (zpow_nonneg zero_le_two _)

/-- The largest double. -/
def largest : ℚ := (2 ^ 53 - 1) * 2 ^ 971

/-- Half a place beyond the largest double: from here on there is none. -/
def beyond : ℚ := 2 ^ 1024 - 2 ^ 970

/-! ## 1. Integers -/

/-- The nearest integer is not farther than a half. -/
theorem roundQuotient_le (hden : 0 < den) : 2 * roundQuotient num den * den ≤ 2 * num + den ∧
    2 * num ≤ 2 * roundQuotient num den * den + den := by
  have hdiv : den * (num / den) + num % den = num := Nat.div_add_mod num den
  have hmod : num % den < den := Nat.mod_lt num hden
  have hnext : (num / den + 1) * den = den * (num / den) + den := by ring
  have hsame : num / den * den = den * (num / den) := Nat.mul_comm ..
  unfold roundQuotient
  dsimp only
  rw [Nat.mul_assoc]
  split_ifs with hlow hhigh
  · rw [hsame]
    omega
  · rw [hnext]
    omega
  · rcases Nat.mod_two_eq_zero_or_one (num / den) with hparity | hparity
    · rw [hparity, Nat.add_zero, hsame]
      omega
    · rw [hparity, hnext]
      omega

theorem abs_roundQuotient_sub_le (hden : 0 < den) :
    |(roundQuotient num den : ℚ) - num / den| ≤ 1 / 2 := by
  obtain ⟨hlow, hhigh⟩ := @roundQuotient_le num den hden
  have hpos : (0 : ℚ) < den := by exact_mod_cast hden
  have hlow' : 2 * (roundQuotient num den : ℚ) * den ≤ 2 * num + den := by exact_mod_cast hlow
  have hhigh' : 2 * (num : ℚ) ≤ 2 * roundQuotient num den * den + den := by exact_mod_cast hhigh
  have hquotient : (num : ℚ) / den * den = num := div_mul_cancel₀ _ hpos.ne'
  rw [abs_le]
  constructor
  · by_contra hnot
    nlinarith
  · by_contra hnot
    nlinarith

/-! ## 2. Quotients -/

/-- A quotient that was scaled is a quotient. -/
theorem scaled_pos (hden : 0 < den) (num : Nat) (shift : Int) : 0 < (scaled num den shift).2 := by
  cases shift with
  | ofNat k => exact hden
  | negSucc k => exact Nat.mul_pos hden (Nat.pow_pos (by decide))

theorem scaled_div (num den : Nat) (shift : Int) :
    ((scaled num den shift).1 : ℚ) / (scaled num den shift).2 = num / den * 2 ^ shift := by
  cases shift with
  | ofNat k =>
    show ((num * 2 ^ k : Nat) : ℚ) / den = _
    rw [Int.ofNat_eq_natCast, zpow_natCast]
    push_cast
    ring
  | negSucc k =>
    show (num : ℚ) / (den * 2 ^ (k + 1) : Nat) = _
    rw [zpow_negSucc]
    push_cast
    rw [div_mul_eq_div_div, ← div_eq_mul_inv]

/-- A number lies between two powers of two. -/
theorem log2_bounds {n : Nat} (h : 0 < n) :
    (2 : ℚ) ^ (n.log2 : Int) ≤ n ∧ (n : ℚ) < 2 ^ ((n.log2 : Int) + 1) := by
  have hlow : 2 ^ n.log2 ≤ n := Nat.log2_self_le h.ne'
  have hhigh : n < 2 ^ (n.log2 + 1) := Nat.lt_log2_self
  constructor
  · rw [zpow_natCast]
    exact_mod_cast hlow
  · rw [← Nat.cast_succ, zpow_natCast]
    exact_mod_cast hhigh

/-- So a quotient lies between two that are two places apart. -/
theorem div_bounds (hnum : 0 < num) (hden : 0 < den) :
    (2 : ℚ) ^ ((num.log2 : Int) - den.log2 - 1) ≤ num / den ∧
      (num : ℚ) / den < 2 ^ ((num.log2 : Int) - den.log2 + 1) := by
  obtain ⟨hnumLow, hnumHigh⟩ := log2_bounds hnum
  obtain ⟨hdenLow, hdenHigh⟩ := log2_bounds hden
  have hpos : (0 : ℚ) < den := by exact_mod_cast hden
  have htwo : (2 : ℚ) ≠ 0 := two_ne_zero
  constructor
  · rw [le_div_iff₀ hpos]
    calc (2 : ℚ) ^ ((num.log2 : Int) - den.log2 - 1) * den
        ≤ 2 ^ ((num.log2 : Int) - den.log2 - 1) * 2 ^ ((den.log2 : Int) + 1) := by gcongr
      _ = 2 ^ (num.log2 : Int) := by
        rw [← zpow_add₀ htwo]
        congr 1
        ring
      _ ≤ num := hnumLow
  · rw [div_lt_iff₀ hpos]
    calc (num : ℚ) < 2 ^ ((num.log2 : Int) + 1) := hnumHigh
      _ = 2 ^ ((num.log2 : Int) - den.log2 + 1) * 2 ^ (den.log2 : Int) := by
        rw [← zpow_add₀ htwo]
        congr 1
        ring
      _ ≤ 2 ^ ((num.log2 : Int) - den.log2 + 1) * den := by gcongr

/-- **The exponent that is found: with it a mantissa has 53 digits, or fewer if it is the least one.** -/
theorem exponentOf_spec (hnum : 0 < num) (hden : 0 < den) :
    (num : ℚ) / den < 2 ^ (53 + exponentOf num den) ∧
      (exponentOf num den = -1074 ∨ (2 : ℚ) ^ (52 + exponentOf num den) ≤ num / den) := by
  obtain ⟨hlow, hhigh⟩ := div_bounds hnum hden
  have htwo : (2 : ℚ) ≠ 0 := two_ne_zero
  obtain ⟨guess, hguess⟩ : ∃ guess : Int, guess = (num.log2 : Int) - den.log2 - 52 := ⟨_, rfl⟩
  have hlow' : (2 : ℚ) ^ (51 + guess) ≤ num / den := by
    convert hlow using 2
    rw [hguess]
    ring
  have hhigh' : (num : ℚ) / den < 2 ^ (53 + guess) := by
    convert hhigh using 2
    rw [hguess]
    ring
  -- the guess is right, or too large by one
  have hsplit : (scaled num den (-guess)).1 < Nat.pow 2 52 * (scaled num den (-guess)).2 ↔
      (num : ℚ) / den < 2 ^ (52 + guess) := by
    have hpos : (0 : ℚ) < (scaled num den (-guess)).2 := by exact_mod_cast scaled_pos hden num _
    have hback : (num : ℚ) / den = num / den * 2 ^ (-guess) * 2 ^ guess := by
      rw [mul_assoc, ← zpow_add₀ htwo, neg_add_cancel, zpow_zero, mul_one]
    have hpow : (2 : ℚ) ^ (52 + guess) = 2 ^ 52 * 2 ^ guess := zpow_add₀ htwo 52 guess
    rw [hback, hpow, mul_lt_mul_iff_left₀ (zpow_pos two_pos guess), ← scaled_div,
      div_lt_iff₀ hpos]
    exact_mod_cast Iff.rfl
  have hfitted : ∃ fitted : Int, exponentOf num den = max fitted (-1074) ∧
      (num : ℚ) / den < 2 ^ (53 + fitted) ∧ (2 : ℚ) ^ (52 + fitted) ≤ num / den := by
    by_cases hsmall : (num : ℚ) / den < 2 ^ (52 + guess)
    · refine ⟨guess - 1, ?_, ?_, ?_⟩
      · rw [exponentOf, ← hguess]
        dsimp only
        rw [if_pos (hsplit.mpr hsmall)]
      · convert hsmall using 2
        ring
      · convert hlow' using 2
        ring
    · refine ⟨guess, ?_, hhigh', not_lt.mp hsmall⟩
      rw [exponentOf, ← hguess]
      dsimp only
      rw [if_neg (mt hsplit.mp hsmall)]
  obtain ⟨fitted, heq, hless, hleast⟩ := hfitted
  constructor
  · refine hless.trans_le (zpow_le_zpow_right₀ one_le_two ?_)
    omega
  · by_cases hmin : fitted ≤ -1074
    · left
      omega
    · right
      rw [heq, max_eq_left (by omega)]
      exact hleast

/-! ## 3. Rounding -/

/-- The mantissa that the quotient is rounded to, before it is seen whether it has a digit too many. -/
def roundedMantissa (num den : Nat) : Nat :=
  let (n, d) := scaled num den (-exponentOf num den)
  roundQuotient n d

/-- It is off by half a place. -/
theorem abs_roundedMantissa_sub_le (num : Nat) (hden : 0 < den) :
    |(roundedMantissa num den : ℚ) * 2 ^ exponentOf num den - num / den| ≤
      2 ^ (exponentOf num den - 1) := by
  have htwo : (2 : ℚ) ≠ 0 := two_ne_zero
  have hpos : (0 : ℚ) < 2 ^ exponentOf num den := zpow_pos two_pos _
  have hround : |(roundedMantissa num den : ℚ) - num / den * 2 ^ (-exponentOf num den)| ≤ 1 / 2 := by
    rw [← scaled_div]
    exact abs_roundQuotient_sub_le (scaled_pos hden _ _)
  have hback : (num : ℚ) / den =
      num / den * 2 ^ (-exponentOf num den) * 2 ^ exponentOf num den := by
    rw [mul_assoc, ← zpow_add₀ htwo, neg_add_cancel, zpow_zero, mul_one]
  have hhalf : (2 : ℚ) ^ (exponentOf num den - 1) = 1 / 2 * 2 ^ exponentOf num den := by
    rw [zpow_sub_one₀ htwo]
    ring
  rw [hback, ← sub_mul, abs_mul, abs_of_pos hpos, hhalf]
  exact mul_le_mul_of_nonneg_right hround hpos.le

/-- **What a quotient above zero is rounded to. There is no double where the exponent is too large, or
    becomes so by a digit too many.** -/
theorem nearest_spec (hnum : 0 < num) (den : Nat) :
    (nearest num den = none ∧ (971 < exponentOf num den ∨
      exponentOf num den = 971 ∧ roundedMantissa num den = 2 ^ 53)) ∨
    ∃ r, nearest num den = some r ∧
      r.value = roundedMantissa num den * 2 ^ exponentOf num den := by
  have htwo : (2 : ℚ) ≠ 0 := two_ne_zero
  have hnearest : nearest num den =
      let rounded : Binary64 := if roundedMantissa num den = Nat.pow 2 53
        then ⟨Nat.pow 2 52, exponentOf num den + 1⟩
        else ⟨roundedMantissa num den, exponentOf num den⟩
      if 971 < rounded.exponent then none else some rounded := by
    rw [nearest, if_neg hnum.ne']
    rfl
  rw [hnearest]
  dsimp only
  by_cases hcarry : roundedMantissa num den = Nat.pow 2 53
  · rw [if_pos hcarry]
    by_cases hlarge : 971 < exponentOf num den + 1
    · rw [if_pos hlarge]
      refine .inl ⟨rfl, ?_⟩
      by_cases heq : exponentOf num den = 971
      · exact .inr ⟨heq, hcarry⟩
      · exact .inl (by omega)
    · rw [if_neg hlarge]
      refine .inr ⟨_, rfl, ?_⟩
      rw [hcarry, value, zpow_add_one₀ htwo]
      norm_num
      ring
  · rw [if_neg hcarry]
    by_cases hlarge : 971 < exponentOf num den
    · rw [if_pos hlarge]
      exact .inl ⟨rfl, .inl hlarge⟩
    · rw [if_neg hlarge]
      exact .inr ⟨_, rfl, rfl⟩

/-- **A quotient is rounded to a double unless it is half a place beyond the largest one.** -/
theorem exists_nearest (hden : 0 < den) (h : (num : ℚ) / den < beyond) :
    ∃ r, nearest num den = some r := by
  by_cases hnum : 0 < num
  · rcases nearest_spec hnum den with ⟨-, hlarge⟩ | ⟨r, hr, -⟩
    · exfalso
      rcases hlarge with hlarge | ⟨heq, hcarry⟩
      · rcases (exponentOf_spec hnum hden).2 with hmin | hleast
        · omega
        · have hpow : (2 : ℚ) ^ 1024 ≤ 2 ^ (52 + exponentOf num den) := by
            rw [← zpow_natCast]
            exact zpow_le_zpow_right₀ one_le_two (by omega)
          have hbeyond : beyond < 2 ^ 1024 := sub_lt_self _ (pow_pos two_pos 970)
          exact lt_irrefl _ ((h.trans hbeyond).trans_le (hpow.trans hleast))
      · have hclose := (abs_le.mp (abs_roundedMantissa_sub_le num hden)).2
        rw [heq, hcarry] at hclose
        have hcarried : ((2 ^ 53 : Nat) : ℚ) * 2 ^ (971 : Int) = 2 ^ 1024 := by
          rw [Nat.cast_pow, Nat.cast_ofNat, ← zpow_natCast, ← zpow_natCast, ← zpow_add₀ two_ne_zero]
          rfl
        have hhalf : (2 : ℚ) ^ ((971 : Int) - 1) = 2 ^ 970 := zpow_natCast 2 970
        rw [hcarried, hhalf, sub_le_comm] at hclose
        exact absurd h (not_lt.mpr hclose)
    · exact ⟨r, hr⟩
  · obtain rfl : num = 0 := by omega
    exact ⟨zero, rfl⟩

/-- A double is off by half of its last place. Either this is the least place of all, and the quotient
    is that small, or the quotient has 53 digits before the end of this place. -/
theorem exists_abs_value_sub_le {r : Binary64} (hnum : 0 < num) (hden : 0 < den)
    (h : nearest num den = some r) : ∃ e : Int,
      |r.value - num / den| ≤ 2 ^ (e - 1) ∧ (num : ℚ) / den < 2 ^ (53 + e) ∧
        (e = -1074 ∨ (2 : ℚ) ^ (52 + e) ≤ num / den) := by
  rcases nearest_spec hnum den with ⟨hnone, -⟩ | ⟨r', hr', hvalue⟩
  · rw [hnone] at h
    cases h
  · rw [hr'] at h
    cases h
    refine ⟨exponentOf num den, ?_, exponentOf_spec hnum hden⟩
    rw [hvalue]
    exact abs_roundedMantissa_sub_le num hden

theorem half_place_le {x : ℚ} {e : Int} (h : (2 : ℚ) ^ (52 + e) ≤ x) :
    (2 : ℚ) ^ (e - 1) ≤ x / 2 ^ 53 := by
  have hpow : (2 : ℚ) ^ (e - 1) = 2 ^ (52 + e) / 2 ^ 53 := by
    have hsplit : e - 1 = 52 + e - 53 := by ring
    rw [hsplit, zpow_sub₀ two_ne_zero]
    rfl
  rw [hpow]
  gcongr

/-- **From one on the double is off by one part in `2^53`.** -/
theorem abs_value_sub_le {r : Binary64} (hden : 0 < den) (hone : 1 ≤ (num : ℚ) / den)
    (h : nearest num den = some r) : |r.value - num / den| ≤ num / den / 2 ^ 53 := by
  have hnum : 0 < num := by
    rcases Nat.eq_zero_or_pos num with rfl | hpos
    · norm_num at hone
    · exact hpos
  obtain ⟨e, hclose, hless, hmin | hleast⟩ := exists_abs_value_sub_le hnum hden h
  · rw [hmin] at hless
    have hsmall : (2 : ℚ) ^ ((53 : Int) + -1074) ≤ 1 := zpow_le_one_of_nonpos₀ one_le_two (by decide)
    exact absurd (hless.trans_le hsmall) (not_lt.mpr hone)
  · exact hclose.trans (half_place_le hleast)

/-- However small the quotient is, the double is not much larger. -/
theorem value_le_of_nearest {r : Binary64} (hden : 0 < den) (h : nearest num den = some r) :
    r.value ≤ 2 * (num / den) + 1 := by
  have hquotient : (0 : ℚ) ≤ num / den := by positivity
  rcases Nat.eq_zero_or_pos num with rfl | hnum
  · cases h
    norm_num [value, zero]
  · obtain ⟨e, hclose, -, hmin | hleast⟩ := exists_abs_value_sub_le hnum hden h
    · rw [hmin] at hclose
      have hsmall : (2 : ℚ) ^ ((-1074 : Int) - 1) ≤ 1 :=
        zpow_le_one_of_nonpos₀ one_le_two (by decide)
      have hone : r.value - num / den ≤ 1 := (abs_le.mp hclose).2.trans hsmall
      linarith
    · have hplace : (num : ℚ) / den / 2 ^ 53 ≤ num / den := div_le_self hquotient (by norm_num)
      linarith [(abs_le.mp hclose).2, half_place_le hleast]

/-! ## 4. Arithmetic -/

/-- A product that is not beyond the doubles. -/
theorem exists_mul {a b : Binary64} (h : a.value * b.value < beyond) : ∃ r, a.mul b = some r := by
  have hvalue : ((scaled (a.mantissa * b.mantissa) 1 (a.exponent + b.exponent)).1 : ℚ) /
      (scaled (a.mantissa * b.mantissa) 1 (a.exponent + b.exponent)).2 = a.value * b.value := by
    rw [scaled_div, value, value, zpow_add₀ two_ne_zero]
    push_cast
    ring
  exact exists_nearest (scaled_pos one_pos _ _) (hvalue ▸ h)

theorem div_eq_nearest (a b : Binary64) (hb : 0 < b.mantissa) :
    ∃ n d, 0 < d ∧ a.div b = nearest n d ∧ (n : ℚ) / d = a.value / b.value := by
  refine ⟨_, _, scaled_pos hb a.mantissa (a.exponent - b.exponent), rfl, ?_⟩
  refine (scaled_div a.mantissa b.mantissa (a.exponent - b.exponent)).trans ?_
  rw [value, value, zpow_sub₀ two_ne_zero, mul_div_mul_comm]

/-- A quotient that is not beyond the doubles, and how large it may be. -/
theorem exists_div {a b : Binary64} (hb : 0 < b.mantissa) (h : a.value / b.value < beyond) :
    ∃ r, a.div b = some r ∧ r.value ≤ 2 * (a.value / b.value) + 1 := by
  obtain ⟨n, d, hd, hdiv, hvalue⟩ := div_eq_nearest a b hb
  rw [← hvalue] at h ⊢
  obtain ⟨r, hr⟩ := exists_nearest hd h
  exact ⟨r, hdiv.trans hr, value_le_of_nearest hd hr⟩

/-- **A power of ten that has a double.** -/
theorem exists_tenPow {k : Nat} (h : k ≤ 308) :
    ∃ p, tenPow k = some p ∧ 0 < p.mantissa ∧ |p.value - 10 ^ k| ≤ 10 ^ k / 2 ^ 53 := by
  have hvalue : ((10 ^ k : Nat) : ℚ) / (1 : Nat) = 10 ^ k := by
    push_cast
    ring
  have hone : (1 : ℚ) ≤ 10 ^ k := one_le_pow₀ (by norm_num)
  have hless : ((10 ^ k : Nat) : ℚ) / (1 : Nat) < beyond := by
    rw [hvalue]
    have hlargest : 10 ^ 308 + 2 ^ 970 < 2 ^ 1024 := by decide +kernel
    have hcast : (10 : ℚ) ^ 308 + 2 ^ 970 < 2 ^ 1024 := by exact_mod_cast hlargest
    have hpow : (10 : ℚ) ^ k ≤ 10 ^ 308 := pow_le_pow_right₀ (by norm_num) h
    exact hpow.trans_lt (lt_sub_iff_add_lt.mpr hcast)
  obtain ⟨p, hp⟩ := exists_nearest one_pos hless
  have hclose := abs_value_sub_le one_pos (hvalue ▸ hone) hp
  rw [hvalue] at hclose
  refine ⟨p, hp, Nat.pos_of_ne_zero fun hzero => ?_, hclose⟩
  have hnone : p.value = 0 := by rw [value, hzero, Nat.cast_zero, zero_mul]
  rw [hnone, zero_sub, abs_neg, abs_of_pos (by positivity)] at hclose
  have hsmall : (10 : ℚ) ^ k / 2 ^ 53 < 10 ^ k := div_lt_self (by positivity) (by norm_num)
  linarith

end Binary64

end ContractQuery
