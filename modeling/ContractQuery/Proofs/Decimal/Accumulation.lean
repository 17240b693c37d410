import ContractQuery.Proofs.Decimal

/-!
# Integers accumulated in one machine word

`Decimal.read` counts with numbers of any size and compares them with the range. A machine reads into
one word of 64 bits, whose operations wrap around, and has to notice when they do. Here both are shown
to be the same, so no digit of a text of any length is worked into a number that is not the one it
should be.

* `exactly?`: the result of an operation on words, provided it did not wrap around.
* `push`: the step, a digit worked into a word. It is the step on numbers, as long as the word holds the
  number of the digits so far (`push_word`).
* `foldlM_push_word`: the run over all digits. What it comes to is always the number of these digits
  (**`accumulate_eq_ok_iff`**).
* **`readWord_eq`**: a whole text, with its sign.
-/

namespace ContractQuery

namespace Decimal

variable {negative : Bool} {digits : List Char}

/-! ## 1. Operations that did not wrap around -/

/-- The word, if it is the number that the operation should give. -/
def exactly? (word : Int64) (n : Int) : Option Int64 := if word.toInt = n then some word else none

/-- What wrapped around is never the number, so only the range of words counts. -/
theorem exactly?_ofInt (n : Int) : exactly? (Int64.ofInt n) n =
    if Int64.minValue.toInt ≤ n ∧ n ≤ Int64.maxValue.toInt then some (Int64.ofInt n) else none := by
  have hiff : (Int64.ofInt n).toInt = n ↔ Int64.minValue.toInt ≤ n ∧ n ≤ Int64.maxValue.toInt := by
    constructor
    · intro h
      rw [← h]
      exact ⟨Int64.minValue_le_toInt _, Int64.toInt_le _⟩
    · intro h
      exact Int64.toInt_ofInt_of_le h.1 (Int.lt_add_one_of_le h.2)
  unfold exactly?
  simp only [hiff]

/-! ## 2. A digit -/

/-- The number with its sign. -/
def withSign (negative : Bool) (n : Nat) : Int := if negative then -n else n

/-- How far from zero a word may be. The least word is one farther than the largest. -/
def limit (negative : Bool) : Nat := if negative then Nat.pow 2 63 else Nat.pow 2 63 - 1

/-- The fault of a number that is farther from zero. -/
def beyond (negative : Bool) : IntegerFault := if negative then .tooSmall else .tooLarge

/-- A digit worked into a word. After a `-` it is taken away, so that the least word can be reached. -/
def push (negative : Bool) (acc : Int64) (c : Char) : Except IntegerFault Int64 :=
  match digit? c with
  | none => .error .invalidDigit
  | some d =>
    let next := do
      let tens ← exactly? (acc * 10) (acc.toInt * 10)
      if negative then exactly? (tens - Int64.ofNat d) (tens.toInt - d)
      else exactly? (tens + Int64.ofNat d) (tens.toInt + d)
    match next with
    | some acc => .ok acc
    | none => .error (beyond negative)

/-- The word of a number. -/
def word (negative : Bool) (n : Nat) : Int64 := Int64.ofInt (withSign negative n)

theorem withSign_inRange_iff {n : Nat} :
    (Int64.minValue.toInt ≤ withSign negative n ∧ withSign negative n ≤ Int64.maxValue.toInt) ↔
      n ≤ limit negative := by
  have hmin : Int64.minValue.toInt = -9223372036854775808 := rfl
  have hmax : Int64.maxValue.toInt = 9223372036854775807 := rfl
  rw [hmin, hmax]
  cases negative with
  | false =>
    have hlimit : limit false = 9223372036854775807 := rfl
    have hsign : withSign false n = n := rfl
    omega
  | true =>
    have hlimit : limit true = 9223372036854775808 := rfl
    have hsign : withSign true n = -n := rfl
    omega

theorem toInt_word {n : Nat} (h : n ≤ limit negative) :
    (word negative n).toInt = withSign negative n := by
  obtain ⟨hlow, hhigh⟩ := withSign_inRange_iff.mpr h
  exact Int64.toInt_ofInt_of_le hlow (Int.lt_add_one_of_le hhigh)

theorem exactly?_word (n : Nat) : exactly? (word negative n) (withSign negative n) =
    if n ≤ limit negative then some (word negative n) else none := by
  have h := exactly?_ofInt (withSign negative n)
  simp only [withSign_inRange_iff] at h
  exact h

theorem exactly?_word_mul_ten {n : Nat} (h : n ≤ limit negative) :
    exactly? (word negative n * 10) ((word negative n).toInt * 10) =
      if n * 10 ≤ limit negative then some (word negative (n * 10)) else none := by
  have hsign : withSign negative n * 10 = withSign negative (n * 10) := by
    unfold withSign
    cases negative <;> simp only [↓reduceIte, Bool.false_eq_true] <;> omega
  have hword : word negative n * 10 = word negative (n * 10) := by
    rw [word, word, ← hsign, Int64.ofInt_mul]
    rfl
  rw [toInt_word h, hword, hsign, exactly?_word]

theorem exactly?_word_digit {n : Nat} (d : Nat) (h : n ≤ limit negative) :
    (if negative then exactly? (word negative n - Int64.ofNat d) ((word negative n).toInt - d)
      else exactly? (word negative n + Int64.ofNat d) ((word negative n).toInt + d)) =
      if n + d ≤ limit negative then some (word negative (n + d)) else none := by
  rw [toInt_word h, ← exactly?_word, word, word, ← Int64.ofInt_eq_ofNat, ← Int64.ofInt_sub,
    ← Int64.ofInt_add]
  cases negative with
  | false =>
    have hsign : withSign false n + d = withSign false (n + d) := rfl
    rw [hsign]
    rfl
  | true =>
    have hsign : withSign true n - d = withSign true (n + d) := by
      show -(n : Int) - d = -((n + d : Nat) : Int)
      omega
    rw [hsign]
    rfl

/-- **The step: while the word holds the number of the digits so far, one digit more is worked in as it
    is with numbers of any size, or does not fit.** -/
theorem push_word {acc : Nat} {c : Char} (hacc : acc ≤ limit negative) :
    push negative (word negative acc) c =
      match digit? c with
      | none => .error .invalidDigit
      | some d =>
        if acc * 10 + d ≤ limit negative then .ok (word negative (acc * 10 + d))
        else .error (beyond negative) := by
  unfold push
  cases digit? c with
  | none => rfl
  | some d =>
    simp only [exactly?_word_mul_ten hacc]
    by_cases htens : acc * 10 ≤ limit negative
    · rw [if_pos htens, Option.bind_eq_bind, Option.bind_some, exactly?_word_digit d htens]
      by_cases hnext : acc * 10 + d ≤ limit negative
      · rw [if_pos hnext, if_pos hnext]
      · rw [if_neg hnext, if_neg hnext]
    · have hnext : ¬ acc * 10 + d ≤ limit negative := by omega
      rw [if_neg htens, if_neg hnext]
      rfl

/-! ## 3. All digits -/

/-- The digits worked into a word, from zero on. -/
def accumulate (negative : Bool) (digits : List Char) : Except IntegerFault Int64 :=
  digits.foldlM (push negative) 0

/-- The run: the word holds the number of the digits so far, from whatever number it begins. -/
theorem foldlM_push_word {acc : Nat} (hacc : acc ≤ limit negative) :
    digits.foldlM (push negative) (word negative acc) =
      word negative <$> magnitude (limit negative) (beyond negative) acc digits := by
  induction digits generalizing acc with
  | nil => rfl
  | cons c rest ih =>
    rw [List.foldlM_cons, push_word hacc, magnitude]
    cases digit? c with
    | none => rfl
    | some d =>
      by_cases hnext : acc * 10 + d ≤ limit negative
      · simp only [hnext, ↓reduceIte]
        exact ih hnext
      · simp only [hnext, ↓reduceIte]
        rfl

theorem accumulate_eq (negative : Bool) (digits : List Char) : accumulate negative digits =
    word negative <$> magnitude (limit negative) (beyond negative) 0 digits := by
  have hzero : word negative 0 = 0 := by cases negative <;> rfl
  rw [accumulate, ← hzero]
  exact foldlM_push_word (Nat.zero_le _)

/-- **Digits are accumulated in a word if and only if the word is the number they denote. This is so of
    all digits of a text and of those that were worked in so far, however many there are.** -/
theorem accumulate_eq_ok_iff {n : Int64} : accumulate negative digits = .ok n ↔
    (∀ c ∈ digits, c.isDigit = true) ∧ n.toInt = withSign negative (value digits) := by
  rw [accumulate_eq, Body.map_eq_ok_iff]
  simp only [magnitude_eq_ok_iff (Nat.zero_le _)]
  constructor
  · rintro ⟨m, ⟨hdigits, hm, hlimit⟩, rfl⟩
    rw [toInt_word hlimit, ← hm, value]
    exact ⟨hdigits, rfl⟩
  · intro ⟨hdigits, hn⟩
    have hlimit : value digits ≤ limit negative := by
      rw [← withSign_inRange_iff, ← hn]
      exact ⟨n.minValue_le_toInt, n.toInt_le⟩
    refine ⟨value digits, ⟨hdigits, rfl, hlimit⟩, Int64.toInt_inj.mp ?_⟩
    rw [toInt_word hlimit, hn]

/-! ## 4. Texts -/

/-- A signed word, read in one word. -/
def readWord : List Char → Except IntegerFault Int64
  | [] => .error .empty
  | ['+'] => .error .invalidDigit
  | ['-'] => .error .invalidDigit
  | '+' :: digits => accumulate false digits
  | '-' :: digits => accumulate true digits
  | digits => accumulate false digits

/-- **A text is read in one word as it is with numbers of any size.** -/
theorem readWord_eq (text : List Char) : readWord text = Int64.ofInt <$> read .signed64 text := by
  have hmap : ∀ (f : Int → Int) (x : Except IntegerFault Nat),
      Int64.ofInt <$> f <$> (do let m ← x; pure (m : Int)) = (fun m : Nat => Int64.ofInt (f m)) <$> x := by
    intro f x
    cases x <;> rfl
  unfold readWord
  split
  · rfl
  · rfl
  · rfl
  · rename_i digits hne
    rw [read, hmap]
    · exact accumulate_eq false digits
    · exact hne
  · rename_i digits hne
    rw [read, Bounds.signed64]
    · dsimp only
      rw [hmap]
      exact accumulate_eq true digits
    · exact hne
  · rw [read, hmap]
    · exact accumulate_eq false text
    all_goals assumption

end Decimal

end ContractQuery
