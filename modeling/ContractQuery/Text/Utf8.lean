/-!
# Reading bytes as text

A body arrives as bytes. `Utf8.decodeLossy` reads them as UTF-8 and never fails: where they are not
UTF-8, each longest run of bytes that begins a character but does not complete it, and else each
single byte, is read as one U+FFFD.

* `Utf8.Lead` says what a first byte announces: how many bytes follow, and in which range the
  first of these has to lie (this is what keeps out overlong forms, surrogate halves and code
  points past U+10FFFF).
* `Utf8.step` takes one byte: the byte continues the character under way, or it ends that character
  unfinished and begins the next.
-/

namespace ContractQuery

namespace Utf8

/-- What a first byte announces: its share of the code point, the number of bytes that follow, and
    the range of the first of them. -/
structure Lead where
  share : Nat
  following : Nat
  low : Nat
  high : Nat

/-- The announcement of a first byte that is not ASCII, if it can begin a character. -/
def Lead.of? (b : Nat) : Option Lead :=
  if 0xc2 ≤ b ∧ b ≤ 0xdf then some ⟨b - 0xc0, 1, 0x80, 0xbf⟩
  else if b = 0xe0 then some ⟨0, 2, 0xa0, 0xbf⟩
  else if b = 0xed then some ⟨0xd, 2, 0x80, 0x9f⟩
  else if 0xe1 ≤ b ∧ b ≤ 0xef then some ⟨b - 0xe0, 2, 0x80, 0xbf⟩
  else if b = 0xf0 then some ⟨0, 3, 0x90, 0xbf⟩
  else if 0xf1 ≤ b ∧ b ≤ 0xf3 then some ⟨b - 0xf0, 3, 0x80, 0xbf⟩
  else if b = 0xf4 then some ⟨4, 3, 0x80, 0x8f⟩
  else none

/-- The character that takes the place of bytes that are none. -/
def replacement : Char := '\ufffd'

/-- What the reader is in the midst of: nothing, or a character that wants more bytes. -/
inductive State
  | between
  | within (share : Nat) (following : Nat) (low high : Nat)

/-- The reader at the beginning of a character: what it writes, and where it is afterwards. -/
def startCharacter (b : Nat) : List Char × State :=
  if b < 0x80 then ([Char.ofNat b], .between)
  else match Lead.of? b with
    | some lead => ([], .within lead.share lead.following lead.low lead.high)
    | none => ([replacement], .between)

/-- The reader on one more byte. A byte that does not continue the character ends it unfinished,
    and is then read as a beginning. -/
def step : State → Nat → List Char × State
  | .between, b => startCharacter b
  | .within share following low high, b =>
    if low ≤ b ∧ b ≤ high then
      let share := share * 64 + (b - 0x80)
      if following ≤ 1 then ([Char.ofNat share], .between)
      else ([], .within share (following - 1) 0x80 0xbf)
    else
      let next := startCharacter b
      (replacement :: next.1, next.2)

/-- The characters of the bytes, from a state on; an unfinished character at the end is one
    U+FFFD. -/
def decodeFrom : State → List UInt8 → List Char
  | .between, [] => []
  | .within .., [] => [replacement]
  | s, b :: rest =>
    let next := step s b.toNat
    next.1 ++ decodeFrom next.2 rest

/-- The text of the bytes. -/
def decodeLossy (bytes : List UInt8) : String := String.ofList (decodeFrom .between bytes)

end Utf8

end ContractQuery
