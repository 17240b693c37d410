import ContractQuery.Json.Binary64
import ContractQuery.Text.Decimal

/-!
# Numbers in JSON

A number written without point and exponent that fits into a word of 64 bits, signed or unsigned,
is kept as it is; every other number is a double. `-0` is a double, for it is not the number `0`.

* `Number.ofText` reads the characters of a number. The digits are gathered in an unsigned word of
  64 bits; digits that no longer fit are left out, and only those before the point count, as zeros.
  What was gathered is then multiplied or divided by a power of ten, with one rounding for each
  step, so the result can differ from the double nearest to what is written. A number beyond the
  doubles is none.
* `Number.text` writes a number. A double is written with the fewest digits that read back
  (`Number.layout` says where the point goes and when there is an exponent).
-/

namespace ContractQuery

namespace Json

/-- A number: an integer of 64 bits, or a double with its sign. -/
inductive Number
  | whole (value : Int)
  | real (negative : Bool) (size : Binary64)
  deriving DecidableEq

namespace Number

/-! ## 1. The parts of a numeral -/

/-- A number as it is written: its sign, the digits before and after the point, and the
    exponent. -/
structure Numeral where
  negative : Bool
  whole : List Char
  fraction : List Char
  hasPoint : Bool
  exponent : Option Int

/-- The number that digits denote. -/
def ofDigits (digits : List Char) : Nat :=
  digits.foldl (fun n c => n * 10 + (c.toNat - 48)) 0

/-- The exponent written after the `e`. -/
def readExponent : List Char → Int
  | '-' :: digits => -(ofDigits digits : Int)
  | '+' :: digits => ofDigits digits
  | digits => ofDigits digits

/-- The parts of a numeral without its sign. -/
def Numeral.ofUnsigned (negative : Bool) (text : List Char) : Numeral :=
  let whole := text.takeWhile Char.isDigit
  let rest := text.dropWhile Char.isDigit
  let hasPoint := rest.head? = some '.'
  let rest := if hasPoint then rest.tail else rest
  let fraction := rest.takeWhile Char.isDigit
  let rest := rest.dropWhile Char.isDigit
  ⟨negative, whole, fraction, hasPoint, if rest.isEmpty then none else some (readExponent rest.tail)⟩

/-- The parts of a numeral. -/
def Numeral.ofText : List Char → Numeral
  | '-' :: text => .ofUnsigned true text
  | text => .ofUnsigned false text

/-! ## 2. Gathering the digits -/

/-- The largest unsigned word of 64 bits. -/
def largestWord : Nat := Nat.pow 2 64 - 1

/-- The largest double exponent of ten that has a double of its own. -/
def largestTenPow : Nat := 308

/-- The digits gathered so far, and how many were left out since they did not fit. -/
structure Gathered where
  digits : Nat
  leftOut : Nat

/-- One more digit before the point. -/
def Gathered.addWhole (g : Gathered) (c : Char) : Gathered :=
  let digits := g.digits * 10 + (c.toNat - 48)
  if g.leftOut = 0 ∧ digits ≤ largestWord then ⟨digits, 0⟩ else ⟨g.digits, g.leftOut + 1⟩

/-- The digits after the point, as many of them as fit; and how many these are. -/
def gatherFraction (digits : Nat) : List Char → Nat × Nat
  | [] => (digits, 0)
  | c :: rest =>
    let more := digits * 10 + (c.toNat - 48)
    if more ≤ largestWord then
      let (all, count) := gatherFraction more rest
      (all, count + 1)
    else (digits, 0)

/-! ## 3. Powers of ten -/

/-- `size` divided by `10^places`, at most 308 places at a time. -/
def divideTen : Nat → Binary64 → Nat → Option Binary64
  | 0, size, places => do size.div (← Binary64.tenPow places)
  | rounds + 1, size, places => do
    if places ≤ largestTenPow then size.div (← Binary64.tenPow places)
    else if size.mantissa = 0 then some size
    else divideTen rounds (← size.div (← Binary64.tenPow largestTenPow)) (places - largestTenPow)

/-- The double for `digits · 10^exponent`, if it is not beyond the doubles. -/
def scaleTen (digits : Nat) (exponent : Int) : Option Binary64 := do
  let size ← Binary64.nearest digits 1
  match exponent with
  | .ofNat places =>
    if size.mantissa = 0 then some size
    else if places ≤ largestTenPow then size.mul (← Binary64.tenPow places)
    else none
  | .negSucc places => divideTen ((places + 1) / largestTenPow) size (places + 1)

/-! ## 4. Reading -/

/-- The integer a numeral without point and exponent stands for, or the double if there is no such
    word. -/
def ofWhole (negative : Bool) (digits : Nat) : Option Number :=
  if !negative then some (.whole digits)
  else if 0 < digits ∧ digits ≤ Nat.pow 2 63 then some (.whole (-(digits : Int)))
  else (Binary64.nearest digits 1).map (.real true)

/-- The number that the characters of a numeral stand for; none if it is beyond the doubles. -/
def ofText (text : List Char) : Option Number :=
  let n := Numeral.ofText text
  let g := n.whole.foldl Gathered.addWhole ⟨0, 0⟩
  if !n.hasPoint && n.exponent.isNone && g.leftOut = 0 then ofWhole n.negative g.digits
  else
    let (digits, places) := gatherFraction g.digits n.fraction
    (scaleTen digits ((g.leftOut : Int) - places + n.exponent.getD 0)).map (.real n.negative)

/-! ## 5. Writing -/

/-- The decision where doubles are written with a point alone: their first digit stands for a power
    of ten from the first of these exponents to the second. -/
def positional : Int × Int := (-5, 15)

/-- The digits of a double laid out: a point alone for sizes near one, an exponent with its sign
    for the others. -/
def layout (digits : List Char) (exponent : Int) : List Char :=
  let leading := exponent + digits.length - 1
  if positional.1 ≤ leading ∧ leading ≤ positional.2 then
    if 0 ≤ exponent then digits ++ List.replicate exponent.toNat '0' ++ ['.', '0']
    else if 0 ≤ leading then
      digits.take (leading + 1).toNat ++ ['.'] ++ digits.drop (leading + 1).toNat
    else ['0', '.'] ++ List.replicate (-leading - 1).toNat '0' ++ digits
  else
    let point := if digits.length = 1 then digits else digits.take 1 ++ ['.'] ++ digits.drop 1
    let sign := if leading < 0 then '-' else '+'
    point ++ ['e', sign] ++ Decimal.renderNat leading.natAbs

/-- The text of a number. -/
def text : Number → List Char
  | .whole value => Decimal.render value
  | .real negative size =>
    let d := size.shortest
    let unsigned := layout (Decimal.renderNat d.digits) d.exponent
    if negative then '-' :: unsigned else unsigned

end Number

end Json

end ContractQuery
