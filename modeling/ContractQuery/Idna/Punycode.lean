/-!
# Names written with letters, digits and hyphens

A label with other characters can be written with those of a plain name: its plain characters, a
hyphen, and then numbers that say which other characters go where. `Punycode.decode` reads such a
label.

* The numbers are written one after the other in base 36, least digit first; which digits end a
  number depends on the numbers before it (`threshold`, `adapt`).
* Each number says how many places to go on from the last one, counting through the label once for
  every code point from U+0080 on (`Decoding.insert`).
-/

namespace ContractQuery

namespace Idna

namespace Punycode

/-! ## 1. Numbers -/

/-- The value of a digit in base 36. -/
def digit? (c : Char) : Option Nat :=
  if 'a' ≤ c ∧ c ≤ 'z' then some (c.toNat - 97)
  else if '0' ≤ c ∧ c ≤ '9' then some (c.toNat - 22)
  else none

/-- Digits below it end a number, at a place of the number. -/
def threshold (place bias : Nat) : Nat :=
  if place ≤ bias then 1 else if bias + 26 ≤ place then 26 else place - bias

/-- A number divided by 35 until it is at most 455, at most `fuel` times; and 36 for each time. -/
def shrink : Nat → Nat → Nat → Nat × Nat
  | 0, delta, steps => (delta, steps)
  | fuel + 1, delta, steps =>
    if 455 < delta then shrink fuel (delta / 35) (steps + 36) else (delta, steps)

/-- The bias after a number, for the next one. -/
def adapt (delta length : Nat) (isFirst : Bool) : Nat :=
  let halved := if isFirst then delta / 700 else delta / 2
  let delta := halved + halved / length
  let (delta, steps) := shrink (delta.log2 + 1) delta 0
  steps + 36 * delta / (delta + 38)

/-! ## 2. Labels -/

/-- A label that is being read. -/
structure Decoding where
  label : List Char
  code : Nat
  position : Nat
  bias : Nat
  isFirst : Bool
  /-- The number under way. -/
  number : Nat
  weight : Nat
  place : Nat

/-- A label with its plain characters only. -/
def Decoding.start (plain : List Char) : Decoding := ⟨plain, 0x80, 0, 72, true, 0, 1, 36⟩

/-- The label after a number is complete, if there is such a character. -/
def Decoding.insert (d : Decoding) (number : Nat) : Option Decoding :=
  let length := d.label.length + 1
  let position := d.position + number
  let code := d.code + position / length
  let place := position % length
  if code.isValidChar then
    some ⟨d.label.take place ++ Char.ofNat code :: d.label.drop place, code, place + 1,
      adapt number length d.isFirst, false, 0, 1, 36⟩
  else none

/-- One more digit. -/
def Decoding.step (d : Decoding) (c : Char) : Option Decoding := do
  let digit ← digit? c
  let number := d.number + digit * d.weight
  let t := threshold d.place d.bias
  if digit < t then d.insert number
  else return { d with number := number, weight := d.weight * (36 - t), place := d.place + 36 }

/-- The plain characters of an encoded label, and its numbers. They are parted by the last
    hyphen, unless nothing is before it. -/
def parts (text : List Char) : List Char × List Char :=
  let numbers := (text.reverse.takeWhile (· ≠ '-')).reverse
  if numbers.length + 1 < text.length then (text.take (text.length - numbers.length - 1), numbers)
  else ([], text)

/-- The label that is encoded, if it is one. -/
def decode (text : List Char) : Option (List Char) := do
  let (plain, numbers) := parts text
  let d ← numbers.foldlM Decoding.step (.start plain)
  if d.place = 36 then some d.label else none

end Punycode

end Idna

end ContractQuery
