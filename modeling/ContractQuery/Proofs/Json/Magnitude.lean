import ContractQuery.Json.Number
import ContractQuery.Proofs.Decimal
import ContractQuery.Proofs.Json.Grammar
import ContractQuery.Proofs.Json.Rounding
import Mathlib.Tactic.FieldSimp

/-!
# Numbers within the range of doubles are read

A number of the grammar stands for a rational number, however many digits it has. It is not read
exactly: digits that do not fit into a word are left out, and up to three roundings follow. Here it is
shown that this never leads beyond the doubles if the number itself is in their range.

* `HasSize`: the rational number that a text stands for, its sign left aside. Every number of the grammar
  stands for one (`NumberText.exists_size`), and for no other (`size_unique`).
* `Numeral.ofText_spec`: the parts of a number are those of its text.
* `Gathered.Holds`: what is known while digits are gathered, of which one more keeps it
  (`Gathered.Holds.addWhole`). So what is gathered is never more than what is written
  (**`gathered_le`**).
* `exists_divideTen`, `exists_scaleTen`: powers of ten.
* **`exists_ofText`**: a number that is at most `largestRead` is read. The two doubles that are larger are
  left out for a reason: near them the roundings can lead beyond all doubles.
-/

namespace ContractQuery

namespace Json

/-! ## 1. What a number stands for -/

/-- What the digits after the point add. -/
inductive FractionSays : List Char → ℚ → Prop
  | absent : FractionSays [] 0
  | digits {cs : List Char} (h : AllDigits cs) :
    FractionSays ('.' :: cs) (Decimal.value cs / 10 ^ cs.length)

/-- The power of ten that is written behind the digits. -/
inductive ExponentSays : List Char → Int → Prop
  | absent : ExponentSays [] 0
  | plain {mark : Char} {cs : List Char} (hmark : mark = 'e' ∨ mark = 'E') (h : AllDigits cs) :
    ExponentSays (mark :: cs) (Decimal.value cs)
  | plus {mark : Char} {cs : List Char} (hmark : mark = 'e' ∨ mark = 'E') (h : AllDigits cs) :
    ExponentSays (mark :: '+' :: cs) (Decimal.value cs)
  | minus {mark : Char} {cs : List Char} (hmark : mark = 'e' ∨ mark = 'E') (h : AllDigits cs) :
    ExponentSays (mark :: '-' :: cs) (-(Decimal.value cs : Int))

/-- What a number without a sign stands for. -/
inductive UnsignedSays : List Char → ℚ → Prop
  | mk {whole fraction exponent : List Char} {part : ℚ} {power : Int} (hwhole : WholeText whole)
    (hfraction : FractionSays fraction part) (hexponent : ExponentSays exponent power) :
    UnsignedSays (whole ++ (fraction ++ exponent)) ((Decimal.value whole + part) * 10 ^ power)

/-- What a number stands for, its sign left aside. -/
inductive HasSize : List Char → ℚ → Prop
  | unsigned {cs : List Char} {size : ℚ} (h : UnsignedSays cs size) : HasSize cs size
  | negative {cs : List Char} {size : ℚ} (h : UnsignedSays cs size) : HasSize ('-' :: cs) size

theorem FractionText.exists_says {cs : List Char} (h : FractionText cs) :
    ∃ part, FractionSays cs part := by
  cases h with
  | absent => exact ⟨_, .absent⟩
  | digits _ h => exact ⟨_, .digits h⟩

theorem ExponentText.exists_says {cs : List Char} (h : ExponentText cs) :
    ∃ power, ExponentSays cs power := by
  cases h with
  | absent => exact ⟨_, .absent⟩
  | digits hmark hsign _ h =>
    rcases hsign with rfl | rfl | rfl
    · exact ⟨_, .plain hmark h⟩
    · exact ⟨_, .plus hmark h⟩
    · exact ⟨_, .minus hmark h⟩

theorem WholeText.allDigits {cs : List Char} (h : WholeText cs) : AllDigits cs := by
  cases h with
  | zero => exact List.forall_mem_singleton.mpr rfl
  | digits _ h => exact h

/-- No sign stands before the digits. -/
theorem WholeText.append_ne_minus {cs : List Char} (h : WholeText cs) (back rest : List Char) :
    cs ++ back ≠ '-' :: rest := by
  intro heq
  cases h with
  | zero => exact absurd (List.cons.inj heq).1 (by decide)
  | digits _ h =>
    have hminus := h '-' ((List.cons.inj heq).1 ▸ List.mem_cons_self)
    exact absurd hminus (by decide)

theorem UnsignedText.exists_says {cs : List Char} (h : UnsignedText cs) :
    ∃ size, UnsignedSays cs size := by
  cases h with
  | mk hwhole hfraction hexponent =>
    obtain ⟨part, hpart⟩ := hfraction.exists_says
    obtain ⟨power, hpower⟩ := hexponent.exists_says
    exact ⟨_, .mk hwhole hpart hpower⟩

/-- A number without a sign begins with digits. -/
theorem UnsignedSays.exists_whole {cs : List Char} {size : ℚ} (h : UnsignedSays cs size) :
    ∃ whole back, WholeText whole ∧ cs = whole ++ back := by
  cases h with
  | mk hwhole => exact ⟨_, _, hwhole, rfl⟩

/-- Every number of the grammar stands for one. -/
theorem NumberText.exists_size {cs : List Char} (h : NumberText cs) : ∃ size, HasSize cs size := by
  cases h with
  | unsigned h =>
    obtain ⟨size, hsize⟩ := h.exists_says
    exact ⟨size, .unsigned hsize⟩
  | negative h =>
    obtain ⟨size, hsize⟩ := h.exists_says
    exact ⟨size, .negative hsize⟩

namespace Number

/-! ## 2. The parts of a number -/

theorem ofDigits_eq (digits : List Char) : ofDigits digits = Decimal.value digits := by
  have hstep : ∀ (n : Nat) (c : Char), n * 10 + (c.toNat - 48) = 10 * n + (c.toNat - '0'.toNat) := by
    intro n c
    rw [Nat.mul_comm]
    rfl
  simp only [ofDigits, Decimal.value, Nat.ofDigitChars_eq_foldl, hstep]

/-- Digits end where something else begins. -/
theorem takeWhile_digits {cs rest : List Char} (h : AllDigits cs)
    (hrest : ∀ c ∈ rest.head?, c.isDigit = false) :
    (cs ++ rest).takeWhile Char.isDigit = cs ∧ (cs ++ rest).dropWhile Char.isDigit = rest := by
  rw [List.takeWhile_append_of_pos h, List.dropWhile_append_of_pos h]
  cases rest with
  | nil => simp
  | cons c rest =>
    have hc : c.isDigit = false := hrest c rfl
    simp [hc]

/-- An exponent is read as what it says, and begins neither with a digit nor with a point. -/
theorem readExponent_of_says {cs : List Char} {power : Int} (h : ExponentSays cs power) :
    (if cs.isEmpty then none else some (readExponent cs.tail)).getD 0 = power ∧
      ∀ c ∈ cs.head?, c.isDigit = false ∧ c ≠ '.' := by
  have hmark : ∀ {mark : Char}, mark = 'e' ∨ mark = 'E' → mark.isDigit = false ∧ mark ≠ '.' := by
    rintro mark (rfl | rfl) <;> decide
  have hread : ∀ digits : List Char, ((ofDigits digits : Nat) : Int) = Decimal.value digits :=
    fun digits => congrArg Nat.cast (ofDigits_eq digits)
  cases h with
  | absent => exact ⟨rfl, nofun⟩
  | @plain mark digits hm h =>
    refine ⟨?_, fun c hc => Option.some.inj hc ▸ hmark hm⟩
    show readExponent digits = _
    -- digits do not begin with a sign
    unfold readExponent
    split
    · exact absurd (h '-' List.mem_cons_self) (by decide)
    · exact absurd (h '+' List.mem_cons_self) (by decide)
    · exact hread digits
  | @plus mark digits hm h =>
    exact ⟨hread digits, fun c hc => Option.some.inj hc ▸ hmark hm⟩
  | @minus mark digits hm h =>
    exact ⟨congrArg Neg.neg (hread digits), fun c hc => Option.some.inj hc ▸ hmark hm⟩

/-- The number of which these are the parts. -/
def Numeral.size (n : Numeral) : ℚ :=
  (Decimal.value n.whole + Decimal.value n.fraction / 10 ^ n.fraction.length) *
    10 ^ (n.exponent.getD 0)

theorem Numeral.ofUnsigned_spec (negative : Bool) {cs : List Char} {size : ℚ}
    (h : UnsignedSays cs size) : (Numeral.ofUnsigned negative cs).size = size := by
  cases h with
  | @mk whole fraction exponent part power hwhole hfraction hexponent =>
    obtain ⟨hpower, hfirst⟩ := readExponent_of_says hexponent
    have hstop : ∀ c ∈ exponent.head?, c.isDigit = false := fun c hc => (hfirst c hc).1
    cases hfraction with
    | absent =>
      obtain ⟨htake, hdrop⟩ := takeWhile_digits hwhole.allDigits hstop
      obtain ⟨hnone, hall⟩ := @takeWhile_digits [] exponent nofun hstop
      have hpoint : ¬ exponent.head? = some '.' := fun hc => (hfirst _ hc).2 rfl
      simp only [List.nil_append] at hnone hall
      simp only [Numeral.ofUnsigned, Numeral.size, List.nil_append, htake, hdrop, hpoint,
        decide_false, ↓reduceIte, hnone, hall, hpower]
      simp [Decimal.value]
    | @digits digits h =>
      have hpoint : ∀ c ∈ ('.' :: (digits ++ exponent)).head?, c.isDigit = false :=
        fun c hc => Option.some.inj hc ▸ rfl
      obtain ⟨htake, hdrop⟩ := takeWhile_digits hwhole.allDigits hpoint
      obtain ⟨hfraction, hrest⟩ := takeWhile_digits h hstop
      simp only [Numeral.ofUnsigned, Numeral.size, List.cons_append, htake, hdrop, List.head?_cons,
        decide_true, ↓reduceIte, List.tail_cons, hfraction, hrest, hpower]

/-- **The parts of a number are those of its text.** -/
theorem Numeral.ofText_spec {cs : List Char} {size : ℚ} (h : HasSize cs size) :
    (Numeral.ofText cs).size = size := by
  cases h with
  | negative h => exact Numeral.ofUnsigned_spec true h
  | unsigned h =>
    have hunsigned : Numeral.ofText cs = .ofUnsigned false cs := by
      unfold Numeral.ofText
      split
      · rename_i rest
        obtain ⟨whole, back, hwhole, heq⟩ := h.exists_whole
        exact absurd heq.symm (hwhole.append_ne_minus back rest)
      · rfl
    rw [hunsigned]
    exact Numeral.ofUnsigned_spec false h

/-- So a text stands for one number only. -/
theorem size_unique {cs : List Char} {size size' : ℚ} (h : HasSize cs size) (h' : HasSize cs size') :
    size = size' :=
  (Numeral.ofText_spec h).symm.trans (Numeral.ofText_spec h')

/-! ## 3. Digits gathered -/

theorem value_cons (c : Char) (rest : List Char) : Decimal.value (c :: rest) =
    (c.toNat - 48) * 10 ^ rest.length + Decimal.value rest := by
  have hzero : 10 * 0 + (c.toNat - '0'.toNat) = c.toNat - 48 := Nat.zero_add _
  rw [Decimal.value, Nat.ofDigitChars_cons, hzero, Nat.ofDigitChars_eq_ofDigitChars_zero,
    Nat.mul_comm]
  rfl

/-- What is known of the digits gathered so far, `n` being the number of all that came: they are a word,
    they are all of it while none was left out, and no more than it ever; and when one was left out, a
    word was too small for it. -/
structure Gathered.Holds (g : Gathered) (n : Nat) : Prop where
  isWord : g.digits ≤ largestWord
  all : g.leftOut = 0 → g.digits = n
  below : g.digits * 10 ^ g.leftOut ≤ n
  tooLarge : ∀ before, g.leftOut = before + 1 → (largestWord + 1) * 10 ^ before ≤ n

theorem Gathered.holds_empty : Gathered.Holds ⟨0, 0⟩ 0 :=
  ⟨Nat.zero_le _, fun _ => rfl, Nat.le_refl 0, nofun⟩

/-- **One more digit.** -/
theorem Gathered.Holds.addWhole {g : Gathered} {n : Nat} (h : g.Holds n) (c : Char) :
    (g.addWhole c).Holds (10 * n + (c.toNat - '0'.toNat)) := by
  have hzero : '0'.toNat = 48 := rfl
  rw [Gathered.addWhole, hzero]
  by_cases hnone : g.leftOut = 0
  · have hdigits := h.all hnone
    by_cases hfits : g.digits * 10 + (c.toNat - 48) ≤ largestWord
    · rw [if_pos ⟨hnone, hfits⟩]
      have hnext : g.digits * 10 + (c.toNat - 48) = 10 * n + (c.toNat - 48) := by omega
      exact ⟨hfits, fun _ => hnext, by rw [pow_zero, Nat.mul_one, hnext], nofun⟩
    · rw [if_neg fun hboth => hfits hboth.2, hnone]
      have hbelow : g.digits * 10 ^ 1 ≤ 10 * n + (c.toNat - 48) := by omega
      refine ⟨h.isWord, nofun, hbelow, fun before heq => ?_⟩
      obtain rfl : before = 0 := (Nat.succ.inj heq).symm
      omega
  · rw [if_neg fun hboth => hnone hboth.1]
    have hbelow : g.digits * 10 ^ (g.leftOut + 1) ≤ 10 * n + (c.toNat - 48) := by
      have hbefore := h.below
      rw [pow_succ, ← Nat.mul_assoc]
      omega
    refine ⟨h.isWord, nofun, hbelow, fun before heq => ?_⟩
    obtain ⟨before', hbefore⟩ := Nat.exists_eq_succ_of_ne_zero hnone
    have hlarge := h.tooLarge before' hbefore
    obtain rfl : before = before' + 1 := (Nat.succ.inj heq).symm.trans hbefore
    rw [pow_succ, ← Nat.mul_assoc]
    omega

theorem Gathered.holds_foldl {g : Gathered} {n : Nat} (h : g.Holds n) (digits : List Char) :
    (digits.foldl Gathered.addWhole g).Holds (Nat.ofDigitChars 10 digits n) := by
  induction digits generalizing g n with
  | nil => exact h
  | cons c rest ih =>
    rw [Nat.ofDigitChars_cons]
    exact ih (h.addWhole c)

/-- The digits after the point that are gathered add no more than all of them would. -/
theorem gatherFraction_spec {digits : Nat} (h : digits ≤ largestWord) (fraction : List Char) :
    (gatherFraction digits fraction).1 ≤ largestWord ∧
    ((gatherFraction digits fraction).2 = 0 → (gatherFraction digits fraction).1 = digits) ∧
    ((gatherFraction digits fraction).1 : ℚ) / 10 ^ (gatherFraction digits fraction).2 ≤
      digits + Decimal.value fraction / 10 ^ fraction.length := by
  induction fraction generalizing digits with
  | nil => simpa [gatherFraction, Decimal.value] using h
  | cons c rest ih =>
    by_cases hfits : digits * 10 + (c.toNat - 48) ≤ largestWord
    · obtain ⟨hword, -, hbelow⟩ := ih hfits
      have hgather : gatherFraction digits (c :: rest) =
          ((gatherFraction (digits * 10 + (c.toNat - 48)) rest).1,
            (gatherFraction (digits * 10 + (c.toNat - 48)) rest).2 + 1) := by
        rw [gatherFraction]
        dsimp only
        rw [if_pos hfits]
      rw [hgather]
      refine ⟨hword, nofun, ?_⟩
      rw [value_cons, List.length_cons]
      generalize gatherFraction (digits * 10 + (c.toNat - 48)) rest = gathered at hbelow
      generalize c.toNat - 48 = digit at hbelow ⊢
      calc (gathered.1 : ℚ) / 10 ^ (gathered.2 + 1)
          = gathered.1 / 10 ^ gathered.2 / 10 := by rw [pow_succ, div_div]
        _ ≤ ((digits * 10 + digit : Nat) + Decimal.value rest / 10 ^ rest.length) / 10 := by gcongr
        _ = digits + (digit * 10 ^ rest.length + Decimal.value rest : Nat) /
              10 ^ (rest.length + 1) := by
          rw [pow_succ]
          push_cast
          field_simp
          ring
    · have hgather : gatherFraction digits (c :: rest) = (digits, 0) := by
        rw [gatherFraction]
        dsimp only
        rw [if_neg hfits]
      rw [hgather]
      refine ⟨h, fun _ => rfl, ?_⟩
      have hrest : (0 : ℚ) ≤ Decimal.value (c :: rest) / 10 ^ (c :: rest).length := by positivity
      simpa using hrest

/-- The digits that are gathered of a number, and the power of ten that goes with them. -/
def gathered (n : Numeral) : Nat × Int :=
  let g := n.whole.foldl Gathered.addWhole ⟨0, 0⟩
  let (digits, places) := gatherFraction g.digits n.fraction
  (digits, (g.leftOut : Int) - places + n.exponent.getD 0)

/-- **What is gathered is a word, and never more than what is written.** -/
theorem gathered_le (n : Numeral) :
    (gathered n).1 ≤ largestWord ∧ ((gathered n).1 : ℚ) * 10 ^ (gathered n).2 ≤ n.size := by
  have hten : (10 : ℚ) ≠ 0 := by norm_num
  have hwhole : (n.whole.foldl Gathered.addWhole ⟨0, 0⟩).Holds (Decimal.value n.whole) :=
    Gathered.holds_foldl Gathered.holds_empty n.whole
  obtain ⟨hword, hnone, hbelow⟩ := gatherFraction_spec hwhole.isWord n.fraction
  unfold gathered Numeral.size
  dsimp only
  generalize n.whole.foldl Gathered.addWhole ⟨0, 0⟩ = g at hwhole hword hnone hbelow ⊢
  generalize gatherFraction g.digits n.fraction = fraction at hword hnone hbelow ⊢
  refine ⟨hword, ?_⟩
  have hpart : (0 : ℚ) ≤ Decimal.value n.fraction / 10 ^ n.fraction.length := by positivity
  rw [zpow_add₀ hten, ← mul_assoc]
  refine mul_le_mul_of_nonneg_right ?_ (by positivity)
  rw [zpow_sub₀ hten, zpow_natCast, zpow_natCast]
  cases hleft : g.leftOut with
  | zero =>
    rw [← hwhole.all hleft, pow_zero, mul_one_div]
    exact hbelow
  | succ before =>
    refine le_trans ?_ (le_add_of_nonneg_right hpart)
    cases hplaces : fraction.2 with
    | zero =>
      have hle := hwhole.below
      rw [hleft, ← hnone hplaces] at hle
      rw [pow_zero, div_one]
      exact_mod_cast hle
    | succ places =>
      -- a digit before the point did not fit into a word, so what did fit is less
      have hlarge := hwhole.tooLarge before hleft
      have hlarge' : (largestWord : ℚ) * 10 ^ before ≤ Decimal.value n.whole := by
        have hless : largestWord * 10 ^ before ≤ Decimal.value n.whole :=
          (Nat.mul_le_mul_right _ (Nat.le_succ _)).trans hlarge
        exact_mod_cast hless
      have hone : (1 : ℚ) ≤ 10 ^ places := one_le_pow₀ (by norm_num)
      have hpower : (10 : ℚ) ^ (before + 1) / 10 ^ (places + 1) ≤ 10 ^ before := by
        rw [pow_succ, pow_succ, mul_div_mul_right _ _ hten]
        exact div_le_self (by positivity) hone
      calc (fraction.1 : ℚ) * (10 ^ (before + 1) / 10 ^ (places + 1))
          ≤ largestWord * 10 ^ before := by gcongr
        _ ≤ Decimal.value n.whole := hlarge'

/-! ## 4. Powers of ten -/

/-- Every number up to here is read. It is the third largest double. -/
def largestRead : ℚ := (2 ^ 53 - 3) * 2 ^ 971

/-- The range is far larger than that of words. -/
theorem two_pow_le_largestRead : (2 : ℚ) ^ 70 ≤ largestRead := by
  have hpow : (2 : ℚ) ^ 70 ≤ 2 ^ 971 := pow_le_pow_right₀ one_le_two (by decide)
  have hpos : (0 : ℚ) < 2 ^ 971 := pow_pos two_pos 971
  have hfactor : (1 : ℚ) ≤ 2 ^ 53 - 3 := by norm_num
  exact hpow.trans (le_mul_of_one_le_left hpos.le hfactor)

open Binary64 (beyond value_le_of_nearest exists_nearest exists_tenPow exists_div exists_mul
  abs_value_sub_le)

theorem two_pow_lt_beyond : (2 : ℚ) ^ 71 < beyond := by
  have hless : 2 ^ 71 + 2 ^ 970 < 2 ^ 1024 := by decide +kernel
  have hcast : (2 : ℚ) ^ 71 + 2 ^ 970 < 2 ^ 1024 := by exact_mod_cast hless
  exact lt_sub_iff_add_lt.mpr hcast

/-- Every word has a double. -/
theorem exists_nearest_word {digits : Nat} (h : digits ≤ largestWord) :
    ∃ size, Binary64.nearest digits 1 = some size ∧ size.value ≤ 2 ^ 70 := by
  have hword : (digits : ℚ) ≤ 2 ^ 64 := by
    have hle : digits ≤ 2 ^ 64 := h.trans (by decide)
    exact_mod_cast hle
  have hone : (digits : ℚ) / (1 : Nat) = digits := by rw [Nat.cast_one, div_one]
  have hless : (digits : ℚ) / (1 : Nat) < beyond := by
    rw [hone]
    linarith [two_pow_lt_beyond]
  obtain ⟨size, hsize⟩ := exists_nearest one_pos hless
  have hvalue := value_le_of_nearest one_pos hsize
  rw [hone] at hvalue
  exact ⟨size, hsize, by linarith⟩

/-- Powers of ten are not much less than they should be. -/
theorem half_le_value_tenPow {k : Nat} {p : Binary64} (h : |p.value - 10 ^ k| ≤ 10 ^ k / 2 ^ 53) :
    (10 : ℚ) ^ k / 2 ≤ p.value := by
  have hpos : (0 : ℚ) < 10 ^ k := by positivity
  linarith [(abs_le.mp h).1]

/-- One division by a power of ten. Unless it is by one, the quotient is not too large to go on with. -/
theorem exists_div_tenPow {size : Binary64} {k : Nat} (hk : k ≤ 308) (hsize : size.value ≤ 2 ^ 70) :
    ∃ p r, Binary64.tenPow k = some p ∧ size.div p = some r ∧ (1 ≤ k → r.value ≤ 2 ^ 70) := by
  obtain ⟨p, hp, hmantissa, hclose⟩ := exists_tenPow hk
  have hnonneg := size.value_nonneg
  have hone : (1 : ℚ) ≤ 10 ^ k := one_le_pow₀ (by norm_num)
  have hhalf := half_le_value_tenPow hclose
  have hquotient : size.value / p.value ≤ size.value / (1 / 2) := by
    have hpos : (1 : ℚ) / 2 ≤ p.value := by linarith
    gcongr
  have hless : size.value / p.value < beyond := by linarith [two_pow_lt_beyond]
  obtain ⟨r, hr, hvalue⟩ := exists_div hmantissa hless
  refine ⟨p, r, hp, hr, fun hten => ?_⟩
  have hpow : (10 : ℚ) ^ 1 ≤ 10 ^ k := pow_le_pow_right₀ (by norm_num) hten
  have hfifth : size.value / p.value ≤ size.value / 5 := by
    have hfive : (5 : ℚ) ≤ p.value := by linarith
    gcongr
  linarith

/-- **A double is divided by any power of ten.** -/
theorem exists_divideTen {rounds places : Nat} {size : Binary64}
    (hplaces : places ≤ 308 * (rounds + 1)) (hsize : size.value ≤ 2 ^ 70) :
    ∃ r, divideTen rounds size places = some r := by
  induction rounds generalizing size places with
  | zero =>
    obtain ⟨p, r, hp, hr, -⟩ := exists_div_tenPow hplaces hsize
    refine ⟨r, ?_⟩
    rw [divideTen, hp]
    exact hr
  | succ rounds ih =>
    have hmost : largestTenPow = 308 := rfl
    rw [divideTen]
    by_cases hle : places ≤ largestTenPow
    · obtain ⟨p, r, hp, hr, -⟩ := exists_div_tenPow hle hsize
      refine ⟨r, ?_⟩
      rw [if_pos hle, hp]
      exact hr
    rw [if_neg hle]
    by_cases hzero : size.mantissa = 0
    · exact ⟨size, by rw [if_pos hzero]⟩
    · rw [if_neg hzero]
      obtain ⟨p, r, hp, hr, hvalue⟩ := exists_div_tenPow (Nat.le_refl 308) hsize
      have hrest : places - 308 ≤ 308 * (rounds + 1) := by omega
      obtain ⟨r', hr'⟩ := ih hrest (hvalue (by decide))
      refine ⟨r', ?_⟩
      rw [hmost, hp]
      simp only [Option.bind_eq_bind, Option.bind_some, hr, hr']

/-- Three roundings do not lead from the numbers that are read beyond the doubles. -/
theorem mul_lt_beyond {x y a b : ℚ} (ha : 0 ≤ a) (hx : x ≤ a + a / 2 ^ 53)
    (hy : y ≤ b + b / 2 ^ 53) (hnonneg : 0 ≤ y) (h : a * b ≤ largestRead) : x * y < beyond := by
  have hbeyond : beyond = (2 ^ 54 - 1) * 2 ^ 970 := by
    have hpow : (2 : ℚ) ^ 1024 = 2 ^ 54 * 2 ^ 970 := by rw [← pow_add]
    rw [beyond, hpow, sub_mul, one_mul]
  have hlargest : largestRead = (2 ^ 54 - 6) * 2 ^ 970 := by
    rw [largestRead, pow_succ _ 970]
    generalize (2 : ℚ) ^ 970 = place
    ring
  have hpos : (0 : ℚ) < 2 ^ 970 := pow_pos two_pos 970
  rw [hlargest] at h
  rw [hbeyond]
  generalize (2 : ℚ) ^ 970 = place at h hpos ⊢
  have hfactor : ((2 : ℚ) ^ 54 - 6) * (1 + 1 / 2 ^ 53) ^ 2 < 2 ^ 54 - 1 := by norm_num
  calc x * y ≤ (a + a / 2 ^ 53) * (b + b / 2 ^ 53) := by gcongr
    _ = a * b * (1 + 1 / 2 ^ 53) ^ 2 := by ring
    _ ≤ (2 ^ 54 - 6) * place * (1 + 1 / 2 ^ 53) ^ 2 := by gcongr
    _ = (2 ^ 54 - 6) * (1 + 1 / 2 ^ 53) ^ 2 * place := by ring
    _ < (2 ^ 54 - 1) * place := mul_lt_mul_of_pos_right hfactor hpos

theorem largestRead_lt : largestRead < 10 ^ 309 := by
  have hnat : 2 ^ 1024 < 10 ^ 309 := by decide +kernel
  have hcast : (2 : ℚ) ^ 1024 < 10 ^ 309 := by exact_mod_cast hnat
  have hpow : (2 : ℚ) ^ 1024 = 2 ^ 53 * 2 ^ 971 := by rw [← pow_add]
  rw [hpow] at hcast
  have hpos : (0 : ℚ) < 2 ^ 971 := pow_pos two_pos 971
  have hfactor : ((2 : ℚ) ^ 53 - 3) < 2 ^ 53 := by norm_num
  exact (mul_lt_mul_of_pos_right hfactor hpos).trans hcast

/-- One multiplication by a power of ten, which is one that has a double. -/
theorem exists_mul_tenPow {digits places : Nat} {size : Binary64} (hdigits : 1 ≤ digits)
    (hsize : Binary64.nearest digits 1 = some size)
    (h : (digits : ℚ) * 10 ^ places ≤ largestRead) :
    places ≤ largestTenPow ∧ ∃ p r, Binary64.tenPow places = some p ∧ size.mul p = some r := by
  have hone : (1 : ℚ) ≤ digits := by exact_mod_cast hdigits
  have hplaces : places ≤ largestTenPow := by
    by_contra hmore
    have hpow : (10 : ℚ) ^ 309 ≤ 10 ^ places :=
      pow_le_pow_right₀ (by norm_num) (Nat.lt_of_not_le hmore)
    have hall : (10 : ℚ) ^ places ≤ digits * 10 ^ places :=
      le_mul_of_one_le_left (by positivity) hone
    exact absurd ((hpow.trans hall).trans h) (not_le.mpr largestRead_lt)
  obtain ⟨p, hp, -, hclose⟩ := exists_tenPow hplaces
  have hcast : (digits : ℚ) / (1 : Nat) = digits := by rw [Nat.cast_one, div_one]
  have hsizeClose := abs_value_sub_le one_pos (hcast.symm ▸ hone) hsize
  rw [hcast] at hsizeClose
  have hproduct : size.value * p.value < beyond :=
    mul_lt_beyond (a := digits) (b := 10 ^ places) (by positivity)
      (by linarith [(abs_le.mp hsizeClose).2]) (by linarith [(abs_le.mp hclose).2])
      p.value_nonneg h
  obtain ⟨r, hr⟩ := exists_mul hproduct
  exact ⟨hplaces, p, r, hp, hr⟩

/-- **Digits are scaled by any power of ten, if it does not lead out of the range.** -/
theorem exists_scaleTen {digits : Nat} {power : Int} (hword : digits ≤ largestWord)
    (h : (digits : ℚ) * 10 ^ power ≤ largestRead) : ∃ r, scaleTen digits power = some r := by
  obtain ⟨size, hsize, hvalue⟩ := exists_nearest_word hword
  rw [scaleTen, hsize]
  simp only [Option.bind_eq_bind, Option.bind_some]
  cases power with
  | ofNat places =>
    dsimp only
    by_cases hzero : size.mantissa = 0
    · exact ⟨size, by rw [if_pos hzero]⟩
    rw [if_neg hzero]
    have hdigits : 1 ≤ digits := by
      refine Nat.pos_of_ne_zero fun hnone => hzero ?_
      rw [hnone] at hsize
      cases hsize
      rfl
    rw [Int.ofNat_eq_natCast, zpow_natCast] at h
    obtain ⟨hplaces, p, r, hp, hr⟩ := exists_mul_tenPow hdigits hsize h
    refine ⟨r, ?_⟩
    rw [if_pos hplaces, hp]
    exact hr
  | negSucc places =>
    have hmost : largestTenPow = 308 := rfl
    refine exists_divideTen ?_ hvalue
    rw [hmost]
    omega

/-! ## 5. Numbers -/

/-- A word is read whatever its sign. -/
theorem exists_ofWhole (negative : Bool) {digits : Nat} (h : digits ≤ largestWord) :
    ∃ n, ofWhole negative digits = some n := by
  obtain ⟨size, hsize, -⟩ := exists_nearest_word h
  unfold ofWhole
  split_ifs
  · exact ⟨_, rfl⟩
  · exact ⟨_, rfl⟩
  · exact ⟨_, by rw [hsize]; rfl⟩

/-- **A number that stands for no more than `largestRead` is read, however it is written.** -/
theorem exists_ofText {text : List Char} {size : ℚ} (hsize : HasSize text size)
    (hle : size ≤ largestRead) : ∃ n, ofText text = some n := by
  obtain ⟨hword, hbelow⟩ := gathered_le (Numeral.ofText text)
  rw [Numeral.ofText_spec hsize] at hbelow
  have hwhole := Gathered.holds_foldl Gathered.holds_empty (Numeral.ofText text).whole
  rw [ofText]
  dsimp only
  split_ifs
  · exact exists_ofWhole _ hwhole.isWord
  · obtain ⟨r, hr⟩ := exists_scaleTen hword (hbelow.trans hle)
    refine ⟨.real (Numeral.ofText text).negative r, ?_⟩
    unfold gathered at hr
    dsimp only at hr
    rw [hr]
    rfl

/-- Less than the largest double, and yet no number that is read. -/
example : ofText "17976931348623157081e289".toList = none ∧
    17976931348623157081 * 10 ^ 289 < (2 ^ 53 - 1) * 2 ^ 971 := by
  decide +kernel

end Number

end Json

end ContractQuery
