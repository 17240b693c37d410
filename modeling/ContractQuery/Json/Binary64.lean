/-!
# Double precision numbers, exactly

A double precision number (of 64 bits, 53 of them significant) is held as `mantissa · 2^exponent`,
and everything is computed on these two integers.

* `Binary64.nearest` rounds a quotient of two natural numbers to the nearest double; of two
  equally near ones it takes the one with the even mantissa. There is no answer if the quotient is
  too large for a double.
* `Binary64.mul` and `Binary64.div` are the exact product and quotient, rounded that way.
* `Binary64.shortest` finds the fewest decimal digits that denote no other double.

Signs are kept apart: all numbers here are zero or positive.
-/

namespace ContractQuery

/-- The number `mantissa · 2^exponent`. Doubles have a mantissa below `2^53` and an exponent from
    `-1074` to `971`; those with a mantissa below `2^52` have the exponent `-1074`. -/
structure Binary64 where
  mantissa : Nat
  exponent : Int
  deriving DecidableEq

namespace Binary64

/-! ## 1. Rounding -/

/-- The integer nearest to `num / den`; of two equally near ones, the even one. -/
def roundQuotient (num den : Nat) : Nat :=
  let below := num / den
  let excess := num % den
  if 2 * excess < den then below
  else if den < 2 * excess then below + 1
  else below + below % 2

/-- The quotient `num / den` times `2^shift`, as a quotient. -/
def scaled (num den : Nat) : Int → Nat × Nat
  | .ofNat k => (num * Nat.pow 2 k, den)
  | .negSucc k => (num, den * Nat.pow 2 (k + 1))

/-- Zero. -/
def zero : Binary64 := ⟨0, -1074⟩

/-- The exponent of the double just below or at `num / den`, for a quotient above zero. -/
def exponentOf (num den : Nat) : Int :=
  let guess : Int := (num.log2 : Int) - den.log2 - 52
  let (n, d) := scaled num den (-guess)
  let fitted := if n < Nat.pow 2 52 * d then guess - 1 else guess
  max fitted (-1074)

/-- The double nearest to `num / den`, if there is one. -/
def nearest (num den : Nat) : Option Binary64 :=
  if num = 0 then some zero
  else
    let e := exponentOf num den
    let (n, d) := scaled num den (-e)
    let m := roundQuotient n d
    let rounded : Binary64 := if m = Nat.pow 2 53 then ⟨Nat.pow 2 52, e + 1⟩ else ⟨m, e⟩
    if 971 < rounded.exponent then none else some rounded

/-! ## 2. Arithmetic -/

/-- The product, rounded. -/
def mul (a b : Binary64) : Option Binary64 :=
  let (n, d) := scaled (a.mantissa * b.mantissa) 1 (a.exponent + b.exponent)
  nearest n d

/-- The quotient by a number other than zero, rounded. -/
def div (a b : Binary64) : Option Binary64 :=
  let (n, d) := scaled a.mantissa b.mantissa (a.exponent - b.exponent)
  nearest n d

/-- The double nearest to a power of ten. -/
def tenPow (k : Nat) : Option Binary64 := nearest (Nat.pow 10 k) 1

/-! ## 3. The fewest digits -/

/-- Decimal digits: `digits · 10^exponent`. -/
structure Digits where
  digits : Nat
  exponent : Int
  deriving DecidableEq

/-- The interval of the numbers that round to `a`: its two ends, each in units of
    `2^(exponent - 2)`. Below a power of two the doubles lie twice as close. -/
def interval (a : Binary64) : Nat × Nat :=
  let low := if a.mantissa = Nat.pow 2 52 ∧ -1074 < a.exponent then 4 * a.mantissa - 1
    else 4 * a.mantissa - 2
  (low, 4 * a.mantissa + 2)

/-- The quotient `num / den` times `10^shift`, as a quotient. -/
def scaledTen (num den : Nat) : Int → Nat × Nat
  | .ofNat k => (num * Nat.pow 10 k, den)
  | .negSucc k => (num, den * Nat.pow 10 (k + 1))

/-- `digits · 10^grid` rounds to `a`. The ends of the interval round to `a` if its mantissa is
    even. -/
def denotedBy (a : Binary64) (digits : Nat) (grid : Int) : Bool :=
  let (low, high) := a.interval
  let (n, d) := scaledTen digits 1 grid
  let (n, d) := scaled n d (2 - a.exponent)
  if a.mantissa % 2 = 0 then low * d ≤ n && n ≤ high * d else low * d < n && n < high * d

/-- The point of a decimal grid that denotes `a`, if one of the two next to `a` does; of two, the
    nearer, and of two equally near the even one. -/
def onGrid? (a : Binary64) (grid : Int) : Option Digits :=
  let (n, d) := scaled a.mantissa 1 a.exponent
  let (n, d) := scaledTen n d (-grid)
  let below := n / d
  let nearer := roundQuotient n d
  let other := if nearer = below then below + 1 else below
  if 0 < nearer ∧ a.denotedBy nearer grid then some ⟨nearer, grid⟩
  else if 0 < other ∧ a.denotedBy other grid then some ⟨other, grid⟩
  else none

/-- The first grid at or below `grid`, within `steps` steps, with a point that denotes `a`. -/
def search (a : Binary64) (grid : Int) : Nat → Option Digits
  | 0 => none
  | steps + 1 =>
    match a.onGrid? grid with
    | some found => some found
    | none => search a (grid - 1) steps

/-- A grid to begin with: its points are as far apart as `a` is large, or farther, so that no
    coarser grid has a point that denotes `a`. -/
def topGrid (a : Binary64) : Int :=
  ((a.mantissa.log2 : Int) + a.exponent + 1) * 30103 / 100000 + 1

/-- A number without zeros at its end. -/
def Digits.trim : Nat → Digits → Digits
  | 0, x => x
  | steps + 1, x =>
    if x.digits % 10 = 0 ∧ x.digits ≠ 0 then Digits.trim steps ⟨x.digits / 10, x.exponent + 1⟩
    else x

/-- The fewest decimal digits that denote `a` and no other double, as near to it as that number of
    digits allows. -/
def shortest (a : Binary64) : Digits :=
  if a.mantissa = 0 then ⟨0, 0⟩
  else ((a.search a.topGrid 25).getD ⟨0, 0⟩).trim 25

end Binary64

end ContractQuery
