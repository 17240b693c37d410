import ContractQuery.Idna.Domain
import ContractQuery.Text.Utf8

/-!
# Hosts

The host in an address is a number or a name.

* A host in brackets is a number of eight groups of hexadecimal digits (`isLongNumber`).
* A host whose last label is a number is one of up to four numbers with dots between them, each
  decimal, octal or hexadecimal (`isShortNumber`).
* Any other host is a name. It may be international, and is then mapped first; all its ASCII
  characters have to be ones that can be sent (`isNameChar`).
-/

namespace ContractQuery

namespace Host

/-! ## 1. Numbers with dots -/

/-- The value of a digit in any base up to 16. -/
def digit? (c : Char) : Option Nat :=
  if '0' ≤ c ∧ c ≤ '9' then some (c.toNat - 48)
  else if 'a' ≤ c ∧ c ≤ 'f' then some (c.toNat - 87)
  else if 'A' ≤ c ∧ c ≤ 'F' then some (c.toNat - 55)
  else none

/-- The number that digits denote in a base, if all are digits of it. -/
def number? (base : Nat) (text : List Char) : Option Nat :=
  text.foldlM (fun n c => do
    let d ← digit? c
    if d < base then some (n * base + d) else none) 0

/-- The number of a part: hexadecimal after `0x`, octal after `0`, else decimal. -/
def part? : List Char → Option Nat
  | [] => none
  | '0' :: 'x' :: digits => number? 16 digits
  | '0' :: 'X' :: digits => number? 16 digits
  | '0' :: d :: digits => number? 8 (d :: digits)
  | digits => number? 10 digits

/-- The last part that is not empty is a number, or is made of digits. -/
def endsInNumber (parts : List (List Char)) : Bool :=
  let last := match parts.reverse with
    | [] :: last :: _ => last
    | last :: _ => last
    | [] => []
  (!last.isEmpty && last.all Char.isDigit) || (part? last).isSome

/-- The parts are those of a number: all but the last are below 256, and the last fills what they
    leave of four bytes. -/
def isShortNumber (parts : List (List Char)) : Bool :=
  let parts := match parts.reverse with
    | [] :: rest => rest.reverse
    | _ => parts
  match parts.mapM part? with
  | some ns =>
    match ns.reverse with
    | last :: before =>
      before.length ≤ 3 && before.all (· < 256) && last < Nat.pow 256 (4 - before.length)
    | [] => false
  | none => false

/-! ## 2. Numbers in brackets -/

/-- One to four hexadecimal digits. -/
def isGroup (text : List Char) : Bool :=
  !text.isEmpty && text.length ≤ 4 && text.all fun c => (digit? c).isSome

/-- A decimal number below 256, without a zero in front. -/
def isByte (text : List Char) : Bool :=
  match text with
  | [] => false
  | '0' :: _ :: _ => false
  | _ => text.all Char.isDigit && (number? 10 text).any (· < 256)

/-- The number of groups that a list of texts stands for; only where `mayEnd` may the last be four
    bytes with dots between them, in place of two groups. -/
def groupCount (mayEnd : Bool) : List (List Char) → Option Nat
  | [] => some 0
  | [last] =>
    let bytes := Idna.split (· = '.') last
    if isGroup last then some 1
    else if mayEnd && bytes.length = 4 && bytes.all isByte then some 2
    else none
  | group :: rest => if isGroup group then (groupCount mayEnd rest).map (· + 1) else none

/-- The groups of a text; an empty one has none. -/
def groups (text : List Char) : List (List Char) :=
  if text.isEmpty then [] else Idna.split (· = ':') text

/-- What comes before the first two colons in a row, and what comes after them. -/
def splitGap : List Char → Option (List Char × List Char)
  | ':' :: ':' :: rest => some ([], rest)
  | c :: rest => (splitGap rest).map fun p => (c :: p.1, p.2)
  | [] => none

/-- Eight groups, or fewer and a gap. -/
def isLongNumber (text : List Char) : Bool :=
  match splitGap text with
  | none => groupCount true (groups text) = some 8
  | some (before, after) =>
    match groupCount false (groups before), groupCount true (groups after) with
    | some n, some m => n + m ≤ 7
    | _, _ => false

/-! ## 3. Names -/

/-- The bytes of a text, each `%` with two hexadecimal digits standing for one. -/
def percentDecode : List UInt8 → List UInt8
  | [] => []
  | [a] => [a]
  | [a, b] => [a, b]
  | a :: b :: c :: rest =>
    match a.toNat, digit? (Char.ofNat b.toNat), digit? (Char.ofNat c.toNat) with
    | 0x25, some high, some low => UInt8.ofNat (high * 16 + low) :: percentDecode rest
    | _, _, _ => a :: percentDecode (b :: c :: rest)

/-- The ASCII character may stand in the name of a host. -/
def isNameChar (c : Char) : Bool := c.isAlphanum || "!$&'()*+,-.;=_~".toList.contains c

/-- The text is the name of a host. -/
def isName (text : List Char) : Bool :=
  let bytes := percentDecode (String.ofList text).toUTF8.toList
  match Idna.Domain.parse (Utf8.decodeLossy bytes).toList with
  | none => false
  | some labels =>
    let written := labels.map fun l => l.ascii
    let parts := written.map (·.getD Idna.encodedOpening)
    let isEmpty := match labels with
      | [l] => l.chars.isEmpty
      | _ => false
    !isEmpty && (labels.all fun l => l.chars.all fun c => 0x80 ≤ c.toNat || isNameChar c)
      && (!endsInNumber parts || isShortNumber parts)

/-- The text is a host. -/
def isHost (text : List Char) : Bool :=
  match text with
  | '[' :: rest =>
    match rest.reverse with
    | ']' :: inside => isLongNumber inside.reverse
    | _ => false
  | _ => isName text

end Host

end ContractQuery
