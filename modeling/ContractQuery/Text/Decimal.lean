/-!
# Decimal integers in text

An integer that travels as text is an optional sign and one or more of the digits `0` to `9`.

* `Decimal.read` reads such a text into a range of integers. The text is read from left to right
  and the first thing that goes wrong decides: a character that is no digit, or a digit that
  leads out of the range (`IntegerFault`).
* `Decimal.render` writes an integer in the one form without superfluous characters.
* `Decimal.isNumeral` is the narrower form of the numbers in expressions: no `+`, any size.
-/

namespace ContractQuery

/-! ## 1. What can be wrong with the text -/

/-- Why a text is not an integer of the range asked for. -/
inductive IntegerFault
  | empty
  | invalidDigit
  | tooLarge
  | tooSmall
  deriving DecidableEq

/-- The fault in words. -/
def IntegerFault.message : IntegerFault → String
  | .empty => "cannot parse integer from empty string"
  | .invalidDigit => "invalid digit found in string"
  | .tooLarge => "number too large to fit in target type"
  | .tooSmall => "number too small to fit in target type"

namespace Decimal

/-! ## 2. Reading -/

/-- The value of an ASCII digit. -/
def digit? (c : Char) : Option Nat :=
  if c.isDigit then some (c.toNat - 48) else none

/-- The number that `acc` followed by the digits denotes, as long as no prefix of it passes
    `limit`; `beyond` is the fault if one does. -/
def magnitude (limit : Nat) (beyond : IntegerFault) : Nat → List Char → Except IntegerFault Nat
  | acc, [] => .ok acc
  | acc, c :: rest =>
    match digit? c with
    | none => .error .invalidDigit
    | some d =>
      if acc * 10 + d ≤ limit then magnitude limit beyond (acc * 10 + d) rest
      else .error beyond

/-- A range of integers around zero: its largest number, and the magnitude of its least one if
    it has negative numbers at all. -/
structure Bounds where
  largest : Nat
  least : Option Nat

/-- The range of signed words of 64 bits. -/
def Bounds.signed64 : Bounds := ⟨Nat.pow 2 63 - 1, some (Nat.pow 2 63)⟩

/-- The range of unsigned words of 32 bits. -/
def Bounds.unsigned32 : Bounds := ⟨Nat.pow 2 32 - 1, none⟩

/-- The integer a text denotes. A sign needs a digit after it, and `-` is a sign only where the
    range has negative numbers. -/
def read (bounds : Bounds) : List Char → Except IntegerFault Int
  | [] => .error .empty
  | ['+'] => .error .invalidDigit
  | ['-'] => .error .invalidDigit
  | '+' :: digits => (fun n => (n : Int)) <$> magnitude bounds.largest .tooLarge 0 digits
  | '-' :: digits =>
    match bounds.least with
    | some least => (fun n => -(n : Int)) <$> magnitude least .tooSmall 0 digits
    | none => .error .invalidDigit
  | digits => (fun n => (n : Int)) <$> magnitude bounds.largest .tooLarge 0 digits

/-- A signed word of 64 bits. -/
def readInt64 (text : String) : Except IntegerFault Int64 :=
  Int64.ofInt <$> read .signed64 text.toList

/-- An unsigned word of 32 bits. -/
def readUInt32 (text : List Char) : Except IntegerFault UInt32 :=
  (fun n => UInt32.ofNat n.toNat) <$> read .unsigned32 text

/-! ## 3. Writing -/

/-- The digits of a number, without leading zeros. -/
def renderNat (n : Nat) : List Char := Nat.toDigits 10 n

/-- The text of an integer: its digits, after a `-` if it is negative. -/
def render : Int → List Char
  | .ofNat n => renderNat n
  | .negSucc n => '-' :: renderNat (n + 1)

/-- The text of a signed word. -/
def renderInt64 (n : Int64) : String := String.ofList (render n.toInt)

/-! ## 4. Numerals of any size -/

/-- One digit at least, and nothing but digits. -/
def isDigits (cs : List Char) : Bool := !cs.isEmpty && cs.all Char.isDigit

/-- An optional `-` and digits. -/
def isNumeral : List Char → Bool
  | '-' :: digits => isDigits digits
  | digits => isDigits digits

end Decimal

end ContractQuery
