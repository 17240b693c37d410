import ContractQuery.Sha256

/-!
# Bytes in base 58

Identifiers are bytes written as a number in base 58, with digits that are not easily confused.

* `Base58.encode` and `Base58.decode` go between bytes and text. The bytes are read as one number;
  zero bytes in front, which the number does not show, are written as so many digits zero (`1`).
* A checked text ends in a checksum: the first four bytes of the hash of the hash of what comes
  before it. `Base58.encodeChecked` appends it, `Base58.decodeChecked` tests it and takes it off.
-/

namespace ContractQuery

namespace Base58

/-! ## 1. Digits of a number -/

/-- The digits of `n` in a base, in front of the digits `done`; at most `fuel` of them. -/
def digitsOnto (base : Nat) : Nat → Nat → List Nat → List Nat
  | 0, _, done => done
  | fuel + 1, n, done => if n = 0 then done else digitsOnto base fuel (n / base) (n % base :: done)

/-- The digits of `n` in a base of two or more, the most significant first; zero has none. -/
def digits (base n : Nat) : List Nat := digitsOnto base (n.log2 + 1) n []

/-- The number that digits denote. -/
def ofDigits (base : Nat) (ds : List Nat) : Nat := ds.foldl (fun n d => n * base + d) 0

/-! ## 2. The alphabet -/

/-- The digits in ascending order. -/
def alphabet : List Char := "123456789ABCDEFGHJKLMNPQRSTUVWXYZabcdefghijkmnopqrstuvwxyz".toList

/-- The character of a digit. -/
def charOf (d : Nat) : Char := alphabet.getD d '1'

/-- The digit of a character. -/
def digitOf? (c : Char) : Option Nat := alphabet.findIdx? (· = c)

/-! ## 3. Bytes and text -/

/-- The text of bytes. -/
def encode (bytes : List UInt8) : List Char :=
  let values := bytes.map UInt8.toNat
  (values.takeWhile (· = 0)).map (fun _ => '1') ++ (digits 58 (ofDigits 256 values)).map charOf

/-- The bytes of a text, if it has no characters outside the alphabet. -/
def decode (text : List Char) : Option (List UInt8) := do
  let values ← text.mapM digitOf?
  return (values.takeWhile (· = 0)).map (fun _ => 0)
    ++ (digits 256 (ofDigits 58 values)).map UInt8.ofNat

/-! ## 4. Checked text -/

/-- The number of bytes of a checksum. -/
def checksumSize : Nat := 4

/-- The checksum of bytes. -/
def checksum (bytes : List UInt8) : List UInt8 :=
  (Sha256.digest (Sha256.digest bytes)).take checksumSize

/-- The text of bytes with their checksum. -/
def encodeChecked (bytes : List UInt8) : List Char := encode (bytes ++ checksum bytes)

/-- The bytes of a text that ends in their checksum. -/
def decodeChecked (text : List Char) : Option (List UInt8) := do
  let all ← decode text
  let bytes := all.take (all.length - checksumSize)
  if checksumSize ≤ all.length ∧ all.drop (all.length - checksumSize) = checksum bytes then
    some bytes
  else none

end Base58

end ContractQuery
