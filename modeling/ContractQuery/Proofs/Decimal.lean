import ContractQuery.Proofs.Body.Steps
import ContractQuery.Text.Decimal

/-!
# Numerals and the integers they denote

An integer is read from a text into a range, digit by digit, and is written without regard to any
range.

* `Numeral signed text n`: the text is an optional sign and digits, and denotes `n`. Where a range has
  no negative numbers `-` is no sign.
* **`read_eq_ok_iff`**: a text is read as the integer that it denotes, provided that lies in the
  range. The range is tested at every digit, but a number only grows with its digits, so the number
  as a whole decides (`magnitude_eq_ok_iff`).
* `numeral_render`: what is written of an integer is a numeral of it. So signed words are read back
  from what is written of them (`readInt64_renderInt64`), and different ones are written differently.
* `Numeral.first`: a numeral begins with a digit or a sign.
-/

namespace ContractQuery

namespace Decimal

/-! ## 1. Digits -/

/-- The number that digits denote. -/
def value (digits : List Char) : Nat := Nat.ofDigitChars 10 digits 0

theorem digit?_of_isDigit {c : Char} (h : c.isDigit = true) : digit? c = some (c.toNat - 48) := if_pos h

theorem digit?_of_not_isDigit {c : Char} (h : ¬ c.isDigit = true) : digit? c = none := if_neg h

theorem isDigits_eq_true_iff {cs : List Char} :
    isDigits cs = true ↔ cs ≠ [] ∧ ∀ c ∈ cs, c.isDigit = true := by
  simp [isDigits]

/-- More digits never make a number less. -/
theorem le_ofDigitChars (digits : List Char) (acc : Nat) : acc ≤ Nat.ofDigitChars 10 digits acc := by
  induction digits generalizing acc with
  | nil => exact Nat.le_refl acc
  | cons c rest ih =>
    rw [Nat.ofDigitChars_cons]
    have hrest := ih (10 * acc + (c.toNat - '0'.toNat))
    omega

/-- **Digits are read as the number they denote, provided it does not pass the limit.** -/
theorem magnitude_eq_ok_iff {limit : Nat} {beyond : IntegerFault} {digits : List Char} {acc n : Nat}
    (hacc : acc ≤ limit) : magnitude limit beyond acc digits = .ok n ↔
      (∀ c ∈ digits, c.isDigit = true) ∧ Nat.ofDigitChars 10 digits acc = n ∧ n ≤ limit := by
  induction digits generalizing acc with
  | nil =>
    rw [magnitude, Nat.ofDigitChars_nil]
    constructor
    · intro h
      cases h
      exact ⟨by simp, rfl, hacc⟩
    · intro ⟨_, h, _⟩
      rw [h]
  | cons c rest ih =>
    rw [magnitude, List.forall_mem_cons]
    by_cases hc : c.isDigit = true
    · have hnext : 10 * acc + (c.toNat - '0'.toNat) = acc * 10 + (c.toNat - 48) := by
        rw [Nat.mul_comm]
        rfl
      rw [digit?_of_isDigit hc, Nat.ofDigitChars_cons, hnext]
      by_cases hle : acc * 10 + (c.toNat - 48) ≤ limit
      · simp only [hle, hc, ↓reduceIte, true_and]
        exact ih hle
      · simp only [hle, ↓reduceIte]
        constructor
        · intro h
          cases h
        · intro ⟨_, hn, hlimit⟩
          -- the limit is passed already, and the digits that follow do not lead back
          have hgrow := le_ofDigitChars rest (acc * 10 + (c.toNat - 48))
          omega
    · rw [digit?_of_not_isDigit hc]
      constructor
      · intro h
        cases h
      · intro ⟨hdigits, _⟩
        exact absurd hdigits.1 hc

/-- The same from the start, where what was read is taken for an integer and put to use. -/
theorem map_magnitude_eq_ok_iff {limit : Nat} {beyond : IntegerFault} {digits : List Char}
    (f : Int → Int) {n : Int} :
    (f <$> do let m ← magnitude limit beyond 0 digits; pure (m : Int)) = .ok n ↔
      (∀ c ∈ digits, c.isDigit = true) ∧ f (value digits) = n ∧ value digits ≤ limit := by
  have hiff : ∀ {m}, magnitude limit beyond 0 digits = .ok m ↔
      (∀ c ∈ digits, c.isDigit = true) ∧ value digits = m ∧ m ≤ limit :=
    magnitude_eq_ok_iff (Nat.zero_le limit)
  rw [Body.map_eq_ok_iff]
  constructor
  · intro ⟨z, hz, hn⟩
    obtain ⟨m, hm, hcast⟩ := Body.bind_eq_ok_iff.mp hz
    obtain rfl := Body.return_eq_ok_iff.mp hcast
    obtain ⟨hdigits, rfl, hlimit⟩ := hiff.mp hm
    exact ⟨hdigits, hn, hlimit⟩
  · intro ⟨hdigits, hn, hlimit⟩
    have hm := hiff.mpr ⟨hdigits, rfl, hlimit⟩
    exact ⟨value digits, Body.bind_eq_ok_iff.mpr ⟨_, hm, rfl⟩, hn⟩

/-! ## 2. Numerals -/

/-- The text is a numeral of the integer. -/
inductive Numeral (signed : Bool) : List Char → Int → Prop
  | plain {digits : List Char} (h : isDigits digits = true) : Numeral signed digits (value digits)
  | plus {digits : List Char} (h : isDigits digits = true) :
    Numeral signed ('+' :: digits) (value digits)
  | minus {digits : List Char} (hsigned : signed = true) (h : isDigits digits = true) :
    Numeral signed ('-' :: digits) (-(value digits : Int))

/-- A numeral begins with a digit or a sign. -/
theorem Numeral.first {signed : Bool} {text : List Char} {n : Int} (h : Numeral signed text n) :
    ∃ c rest, text = c :: rest ∧ (c.isDigit = true ∨ c = '+' ∨ c = '-') := by
  cases h with
  | plain h =>
    obtain ⟨hne, hdigits⟩ := isDigits_eq_true_iff.mp h
    cases text with
    | nil => exact absurd rfl hne
    | cons c rest => exact ⟨c, rest, rfl, .inl (hdigits c List.mem_cons_self)⟩
  | plus h => exact ⟨_, _, rfl, .inr (.inl rfl)⟩
  | minus hsigned h => exact ⟨_, _, rfl, .inr (.inr rfl)⟩

section Signs

variable {signed : Bool} {digits : List Char} {n : Int}

theorem numeral_plus_iff :
    Numeral signed ('+' :: digits) n ↔ isDigits digits = true ∧ (value digits : Int) = n := by
  constructor
  · intro h
    cases h with
    | plain h => exact absurd ((isDigits_eq_true_iff.mp h).2 '+' List.mem_cons_self) (by decide)
    | plus h => exact ⟨h, rfl⟩
  · intro ⟨h, hn⟩
    rw [← hn]
    exact .plus h

theorem numeral_minus_iff : Numeral signed ('-' :: digits) n ↔
    signed = true ∧ isDigits digits = true ∧ -(value digits : Int) = n := by
  constructor
  · intro h
    cases h with
    | plain h => exact absurd ((isDigits_eq_true_iff.mp h).2 '-' List.mem_cons_self) (by decide)
    | minus hsigned h => exact ⟨hsigned, h, rfl⟩
  · intro ⟨hsigned, h, hn⟩
    rw [← hn]
    exact .minus hsigned h

/-- Without a sign a numeral is its digits. -/
theorem numeral_unsigned_iff (hplus : ∀ rest, digits ≠ '+' :: rest)
    (hminus : ∀ rest, digits ≠ '-' :: rest) :
    Numeral signed digits n ↔ isDigits digits = true ∧ (value digits : Int) = n := by
  constructor
  · intro h
    cases h with
    | plain h => exact ⟨h, rfl⟩
    | plus h => exact absurd rfl (hplus _)
    | minus hsigned h => exact absurd rfl (hminus _)
  · intro ⟨h, hn⟩
    rw [← hn]
    exact .plain h

/-- A numeral denotes one integer only. -/
theorem Numeral.unique {text : List Char} {m n : Int} (hm : Numeral signed text m)
    (hn : Numeral signed text n) : m = n := by
  cases hm with
  | plus h => exact (numeral_plus_iff.mp hn).2
  | minus hsigned h => exact (numeral_minus_iff.mp hn).2.2
  | plain h =>
    have hm : Numeral signed text (value text) := .plain h
    cases hn with
    | plain h' => rfl
    | plus h' => exact (numeral_plus_iff.mp hm).2.symm
    | minus hsigned h' => exact (numeral_minus_iff.mp hm).2.2.symm

end Signs

/-! ## 3. Reading -/

/-- The integer lies in the range. -/
def Bounds.Holds (bounds : Bounds) (n : Int) : Prop :=
  -(bounds.least.getD 0 : Int) ≤ n ∧ n ≤ bounds.largest

/-- Digits that are read as they are, where at least one has to be there. -/
theorem magnitude_plain_iff {bounds : Bounds} {digits : List Char} {n : Int} (hne : digits ≠ []) :
    ((fun n => n) <$> do let m ← magnitude bounds.largest .tooLarge 0 digits; pure (m : Int)) = .ok n ↔
      (isDigits digits = true ∧ (value digits : Int) = n) ∧ bounds.Holds n := by
  rw [map_magnitude_eq_ok_iff, isDigits_eq_true_iff]
  unfold Bounds.Holds
  constructor
  · intro ⟨hdigits, hn, hlimit⟩
    exact ⟨⟨⟨hne, hdigits⟩, hn⟩, by omega, by omega⟩
  · intro ⟨⟨⟨_, hdigits⟩, hn⟩, _, hlargest⟩
    exact ⟨hdigits, hn, by omega⟩

/-- **A text is read as an integer if and only if it is a numeral of it, and it lies in the range.** -/
theorem read_eq_ok_iff {bounds : Bounds} {text : List Char} {n : Int} :
    read bounds text = .ok n ↔ Numeral bounds.least.isSome text n ∧ bounds.Holds n := by
  have hempty : ¬ isDigits [] = true := by decide
  unfold read
  split
  · have hnot : ¬ Numeral bounds.least.isSome [] n := by
      intro h
      obtain ⟨_, _, htext, _⟩ := h.first
      cases htext
    simp [hnot]
  · simp [numeral_plus_iff, hempty]
  · simp [numeral_minus_iff, hempty]
  · rename_i digits hne
    rw [numeral_plus_iff]
    exact magnitude_plain_iff hne
  · rename_i digits hne
    rw [numeral_minus_iff, isDigits_eq_true_iff]
    split
    · rename_i least hleast
      rw [map_magnitude_eq_ok_iff]
      unfold Bounds.Holds
      rw [hleast]
      simp only [Option.isSome_some, Option.getD_some, true_and]
      constructor
      · intro ⟨hdigits, hn, hlimit⟩
        exact ⟨⟨⟨hne, hdigits⟩, hn⟩, by omega, by omega⟩
      · intro ⟨⟨⟨_, hdigits⟩, hn⟩, hlow, _⟩
        exact ⟨hdigits, hn, by omega⟩
    · rename_i hleast
      simp [hleast]
  · rename_i hne _ _ hplus hminus
    rw [numeral_unsigned_iff hplus hminus]
    exact magnitude_plain_iff hne

/-- The range of a signed word. -/
theorem holds_signed64_iff {n : Int} :
    Bounds.signed64.Holds n ↔ Int64.minValue.toInt ≤ n ∧ n ≤ Int64.maxValue.toInt := by
  have hleast : -(Bounds.signed64.least.getD 0 : Int) = Int64.minValue.toInt := rfl
  have hlargest : (Bounds.signed64.largest : Int) = Int64.maxValue.toInt := rfl
  unfold Bounds.Holds
  rw [hleast, hlargest]

/-- The range of an unsigned word. -/
theorem holds_unsigned32_iff {n : Int} :
    Bounds.unsigned32.Holds n ↔ 0 ≤ n ∧ n < UInt32.size := by
  have hleast : -(Bounds.unsigned32.least.getD 0 : Int) = 0 := rfl
  have hlargest : (Bounds.unsigned32.largest : Int) = UInt32.size - 1 := rfl
  unfold Bounds.Holds
  rw [hleast, hlargest]
  omega

/-- **A signed word is read from its numerals, and from nothing else.** -/
theorem readInt64_eq_ok_iff {text : String} {n : Int64} :
    readInt64 text = .ok n ↔ Numeral true text.toList n.toInt := by
  unfold readInt64
  rw [Body.map_eq_ok_iff]
  constructor
  · intro ⟨m, hm, hn⟩
    obtain ⟨hnumeral, hholds⟩ := read_eq_ok_iff.mp hm
    obtain ⟨hlow, hhigh⟩ := holds_signed64_iff.mp hholds
    rw [← hn, Int64.toInt_ofInt_of_le hlow (Int.lt_add_one_of_le hhigh)]
    exact hnumeral
  · intro h
    have hholds : Bounds.signed64.Holds n.toInt :=
      holds_signed64_iff.mpr ⟨n.minValue_le_toInt, n.toInt_le⟩
    exact ⟨n.toInt, read_eq_ok_iff.mpr ⟨h, hholds⟩, n.ofInt_toInt⟩

/-- Where reading fails there was no numeral of any signed word. -/
theorem readInt64_error_iff {text : String} : (∃ fault, readInt64 text = .error fault) ↔
    ∀ n : Int64, ¬ Numeral true text.toList n.toInt := by
  constructor
  · intro ⟨fault, h⟩ n hn
    rw [readInt64_eq_ok_iff.mpr hn] at h
    cases h
  · intro hno
    cases h : readInt64 text with
    | error fault => exact ⟨fault, rfl⟩
    | ok n => exact absurd (readInt64_eq_ok_iff.mp h) (hno n)

/-- **An unsigned word is read from its numerals without `-`, and from nothing else.** -/
theorem readUInt32_eq_ok_iff {text : List Char} {n : UInt32} :
    readUInt32 text = .ok n ↔ Numeral false text n.toNat := by
  unfold readUInt32
  rw [Body.map_eq_ok_iff]
  constructor
  · intro ⟨m, hm, hn⟩
    obtain ⟨hnumeral, hholds⟩ := read_eq_ok_iff.mp hm
    obtain ⟨hlow, hhigh⟩ := holds_unsigned32_iff.mp hholds
    have hword : m.toNat < UInt32.size := by omega
    rw [← hn, UInt32.toNat_ofNat_of_lt' hword, Int.toNat_of_nonneg hlow]
    exact hnumeral
  · intro h
    have hlt : n.toNat < UInt32.size := n.toNat_lt_size
    have hholds : Bounds.unsigned32.Holds n.toNat := holds_unsigned32_iff.mpr ⟨by omega, by omega⟩
    exact ⟨n.toNat, read_eq_ok_iff.mpr ⟨h, hholds⟩, UInt32.ofNat_toNat⟩

/-! ## 4. Writing -/

theorem isDigits_renderNat (n : Nat) : isDigits (renderNat n) = true :=
  isDigits_eq_true_iff.mpr ⟨Nat.toDigits_ne_nil, fun _ hc =>
    Nat.isDigit_of_mem_toDigits (by decide) (by decide) hc⟩

theorem value_renderNat (n : Nat) : value (renderNat n) = n :=
  Nat.ofDigitChars_toDigits (by decide) (by decide)

theorem numeral_renderNat (signed : Bool) (n : Nat) : Numeral signed (renderNat n) n := by
  have h : Numeral signed (renderNat n) (value (renderNat n)) := .plain (isDigits_renderNat n)
  rw [value_renderNat] at h
  exact h

/-- **What is written of an integer is a numeral of it.** -/
theorem numeral_render (n : Int) : Numeral true (render n) n := by
  cases n with
  | ofNat n => exact numeral_renderNat true n
  | negSucc n =>
    have h : Numeral true ('-' :: renderNat (n + 1)) (-(value (renderNat (n + 1)) : Int)) :=
      .minus rfl (isDigits_renderNat (n + 1))
    rw [value_renderNat] at h
    exact h

theorem readInt64_renderInt64 (n : Int64) : readInt64 (renderInt64 n) = .ok n := by
  rw [readInt64_eq_ok_iff, renderInt64, String.toList_ofList]
  exact numeral_render n.toInt

/-- Different words are written differently. -/
theorem renderInt64_inj {m n : Int64} : renderInt64 m = renderInt64 n ↔ m = n := by
  constructor
  · intro h
    have hread := readInt64_renderInt64 m
    rw [h, readInt64_renderInt64] at hread
    exact (Except.ok.inj hread).symm
  · exact congrArg renderInt64

theorem isDigit_of_mem_renderNat {n : Nat} {c : Char} (h : c ∈ renderNat n) : c.isDigit = true :=
  (isDigits_eq_true_iff.mp (isDigits_renderNat n)).2 c h

/-- What is written is digits, after a `-` if there is a sign. -/
theorem isDigit_or_minus_of_mem_render {n : Int} {c : Char} (h : c ∈ render n) :
    c.isDigit = true ∨ c = '-' := by
  cases n with
  | ofNat n => exact .inl (isDigit_of_mem_renderNat h)
  | negSucc n =>
    rcases List.mem_cons.mp h with h | h
    · exact .inr h
    · exact .inl (isDigit_of_mem_renderNat h)

theorem renderInt64_ne_empty (n : Int64) : renderInt64 n ≠ "" := by
  intro h
  have hnumeral := readInt64_eq_ok_iff.mp (readInt64_renderInt64 n)
  rw [h] at hnumeral
  obtain ⟨_, _, hempty, _⟩ := hnumeral.first
  cases hempty

end Decimal

end ContractQuery
