/-!
# SHA-256

The hash function that checksums are cut from, on lists of bytes.

* A message is padded to whole blocks of 64 bytes (`padded`), its length in bits at the end.
* `compress` works one block into the eight words of a `Hash`, by one `round` for each of the 64
  round constants. The sixteen words a round looks at slide along: each round drops the first and
  appends the one that comes 16 rounds later (`nextWord`).
* `digest` writes out the eight words after the last block.
-/

namespace ContractQuery

namespace Sha256

/-! ## 1. Words -/

/-- Eight words: what the hash function hands from block to block, and from round to round. -/
structure Hash where
  a : UInt32
  b : UInt32
  c : UInt32
  d : UInt32
  e : UInt32
  f : UInt32
  g : UInt32
  h : UInt32

/-- The words added, place by place. -/
def Hash.add (x y : Hash) : Hash :=
  ⟨x.a + y.a, x.b + y.b, x.c + y.c, x.d + y.d, x.e + y.e, x.f + y.f, x.g + y.g, x.h + y.h⟩

/-- The words in order. -/
def Hash.toList (x : Hash) : List UInt32 := [x.a, x.b, x.c, x.d, x.e, x.f, x.g, x.h]

/-- The words before the first block. -/
def initial : Hash :=
  ⟨0x6a09e667, 0xbb67ae85, 0x3c6ef372, 0xa54ff53a, 0x510e527f, 0x9b05688c, 0x1f83d9ab, 0x5be0cd19⟩

/-- The constants of the 64 rounds. -/
def roundConstants : List UInt32 :=
  [0x428a2f98, 0x71374491, 0xb5c0fbcf, 0xe9b5dba5, 0x3956c25b, 0x59f111f1, 0x923f82a4, 0xab1c5ed5,
    0xd807aa98, 0x12835b01, 0x243185be, 0x550c7dc3, 0x72be5d74, 0x80deb1fe, 0x9bdc06a7, 0xc19bf174,
    0xe49b69c1, 0xefbe4786, 0x0fc19dc6, 0x240ca1cc, 0x2de92c6f, 0x4a7484aa, 0x5cb0a9dc, 0x76f988da,
    0x983e5152, 0xa831c66d, 0xb00327c8, 0xbf597fc7, 0xc6e00bf3, 0xd5a79147, 0x06ca6351, 0x14292967,
    0x27b70a85, 0x2e1b2138, 0x4d2c6dfc, 0x53380d13, 0x650a7354, 0x766a0abb, 0x81c2c92e, 0x92722c85,
    0xa2bfe8a1, 0xa81a664b, 0xc24b8b70, 0xc76c51a3, 0xd192e819, 0xd6990624, 0xf40e3585, 0x106aa070,
    0x19a4c116, 0x1e376c08, 0x2748774c, 0x34b0bcb5, 0x391c0cb3, 0x4ed8aa4a, 0x5b9cca4f, 0x682e6ff3,
    0x748f82ee, 0x78a5636f, 0x84c87814, 0x8cc70208, 0x90befffa, 0xa4506ceb, 0xbef9a3f7, 0xc67178f2]

/-- A word turned to the right. -/
def rotate (x : UInt32) (n : UInt32) : UInt32 := (x >>> n) ||| (x <<< (32 - n))

/-! ## 2. One block -/

/-- The word that comes 16 rounds after the first of the window. -/
def nextWord (window : List UInt32) : UInt32 :=
  let w0 := window.getD 0 0
  let w1 := window.getD 1 0
  let w9 := window.getD 9 0
  let w14 := window.getD 14 0
  let s0 := rotate w1 7 ^^^ rotate w1 18 ^^^ (w1 >>> 3)
  let s1 := rotate w14 17 ^^^ rotate w14 19 ^^^ (w14 >>> 10)
  w0 + s0 + w9 + s1

/-- One round: a constant and a word of the block worked into the eight words. -/
def round (x : Hash) (constant word : UInt32) : Hash :=
  let s1 := rotate x.e 6 ^^^ rotate x.e 11 ^^^ rotate x.e 25
  let choice := (x.e &&& x.f) ^^^ ((~~~ x.e) &&& x.g)
  let t1 := x.h + s1 + choice + constant + word
  let s0 := rotate x.a 2 ^^^ rotate x.a 13 ^^^ rotate x.a 22
  let majority := (x.a &&& x.b) ^^^ (x.a &&& x.c) ^^^ (x.b &&& x.c)
  ⟨t1 + s0 + majority, x.a, x.b, x.c, x.d + t1, x.e, x.f, x.g⟩

/-- The rounds of some constants, with the window of the words to come. -/
def rounds (x : Hash) (window : List UInt32) : List UInt32 → Hash
  | [] => x
  | constant :: rest =>
    rounds (round x constant (window.getD 0 0)) (window.tail ++ [nextWord window]) rest

/-- Four bytes as a word, the most significant one first. -/
def wordOfBytes (a b c d : UInt8) : UInt32 :=
  (a.toUInt32 <<< 24) ||| (b.toUInt32 <<< 16) ||| (c.toUInt32 <<< 8) ||| d.toUInt32

/-- Bytes as words. -/
def words : List UInt8 → List UInt32
  | a :: b :: c :: d :: rest => wordOfBytes a b c d :: words rest
  | _ => []

/-- One block worked into the eight words. -/
def compress (x : Hash) (block : List UInt8) : Hash :=
  x.add (rounds x (words block) roundConstants)

/-! ## 3. Messages -/

/-- A word as bytes, the most significant one first. -/
def bytesOfWord (w : UInt32) : List UInt8 :=
  [(w >>> 24).toUInt8, (w >>> 16).toUInt8, (w >>> 8).toUInt8, w.toUInt8]

/-- The length of a message in bits, as eight bytes. -/
def lengthBytes (n : Nat) : List UInt8 :=
  let bits := n * 8
  bytesOfWord (UInt32.ofNat (bits / Nat.pow 2 32)) ++ bytesOfWord (UInt32.ofNat bits)

/-- A message filled up to whole blocks: the byte `0x80`, zeros, and the length. -/
def padded (message : List UInt8) : List UInt8 :=
  let zeros := (119 - message.length % 64) % 64
  message ++ 0x80 :: List.replicate zeros 0 ++ lengthBytes message.length

/-- The next `n` blocks worked in. -/
def compressBlocks (x : Hash) (bytes : List UInt8) : Nat → Hash
  | 0 => x
  | n + 1 => compressBlocks (compress x (bytes.take 64)) (bytes.drop 64) n

/-- The 32 bytes of the hash of a message. -/
def digest (message : List UInt8) : List UInt8 :=
  let bytes := padded message
  (compressBlocks initial bytes (bytes.length / 64)).toList.flatMap bytesOfWord

end Sha256

end ContractQuery
