import ContractQuery.Proofs.Text.ByteOrder
import ContractQuery.Text.Utf8

/-!
# Bytes of a text are read as that text

Bytes are read one by one, and what is no UTF-8 is replaced. Of a text nothing is replaced: each of its
characters goes through the states that its first byte announces, and the bytes after it lie in the
ranges that these states want.

* `decodeFrom_last`, `decodeFrom_more`: a byte after the first, the last one and one before it.
* `startCharacter_two`, `startCharacter_three`, `startCharacter_four`: what a first byte announces, and
  that the second one lies in the range. Here it matters that a character is neither a surrogate nor
  past the last code point.
* **`decodeFrom_encode`**: one character. **`decodeLossy_bytes`**: whole texts.
-/

namespace ContractQuery

namespace Utf8

open String (utf8EncodeChar)

theorem decodeFrom_cons (s : State) (b : UInt8) (rest : List UInt8) :
    decodeFrom s (b :: rest) = (step s b.toNat).1 ++ decodeFrom (step s b.toNat).2 rest := by
  cases s <;> rfl

theorem toNat_ofNat_of_lt {n : Nat} (h : n < 256) : (UInt8.ofNat n).toNat = n := by
  rw [UInt8.toNat_ofNat', Nat.mod_eq_of_lt h]

/-! ## 1. Bytes after the first -/

section Bytes

variable {v low high : Nat} {rest : List UInt8}

/-- The last byte of a character. -/
theorem decodeFrom_last (hlow : low ≤ v % 64 + 128) (hhigh : v % 64 + 128 ≤ high) :
    decodeFrom (.within (v / 64) 1 low high) (UInt8.ofNat (v % 64 + 128) :: rest) =
      Char.ofNat v :: decodeFrom .between rest := by
  have hvalue : v / 64 * 64 + (v % 64 + 128 - 0x80) = v := by omega
  rw [decodeFrom_cons, toNat_ofNat_of_lt (by omega), step, if_pos ⟨hlow, hhigh⟩]
  simp only [hvalue, Nat.le_refl, ↓reduceIte, List.cons_append, List.nil_append]

/-- A byte that is not the last. -/
theorem decodeFrom_more {following : Nat} (hfollowing : 2 ≤ following)
    (hlow : low ≤ v % 64 + 128) (hhigh : v % 64 + 128 ≤ high) :
    decodeFrom (.within (v / 64) following low high) (UInt8.ofNat (v % 64 + 128) :: rest) =
      decodeFrom (.within v (following - 1) 0x80 0xbf) rest := by
  have hvalue : v / 64 * 64 + (v % 64 + 128 - 0x80) = v := by omega
  rw [decodeFrom_cons, toNat_ofNat_of_lt (by omega), step, if_pos ⟨hlow, hhigh⟩]
  simp only [hvalue, if_neg (show ¬ following ≤ 1 by omega), List.nil_append]

end Bytes

/-! ## 2. First bytes -/

theorem startCharacter_one {v : Nat} (h : v ≤ 127) :
    startCharacter v = ([Char.ofNat v], .between) := by
  rw [startCharacter, if_pos (by omega)]

theorem startCharacter_of_lead {b : Nat} {lead : Lead} (hb : ¬ b < 0x80)
    (h : Lead.of? b = some lead) :
    startCharacter b = ([], .within lead.share lead.following lead.low lead.high) := by
  rw [startCharacter, if_neg hb, h]

theorem startCharacter_two {v : Nat} (hlow : 127 < v) (hhigh : v ≤ 2047) :
    startCharacter (v / 64 % 32 + 192) = ([], .within (v / 64) 1 0x80 0xbf) := by
  have hshare : v / 64 % 32 + 192 - 0xc0 = v / 64 := by omega
  have hlead : Lead.of? (v / 64 % 32 + 192) = some ⟨v / 64, 1, 0x80, 0xbf⟩ := by
    rw [Lead.of?, if_pos (by omega), hshare]
  exact startCharacter_of_lead (by omega) hlead

theorem startCharacter_three {v : Nat} (hlow : 2047 < v) (hhigh : v ≤ 65535)
    (hsurrogate : v < 0xd800 ∨ 0xdfff < v) : ∃ low high,
    startCharacter (v / 4096 % 16 + 224) = ([], .within (v / 4096) 2 low high) ∧
      low ≤ v / 64 % 64 + 128 ∧ v / 64 % 64 + 128 ≤ high := by
  have hlead : ∃ low high, Lead.of? (v / 4096 % 16 + 224) = some ⟨v / 4096, 2, low, high⟩ ∧
      low ≤ v / 64 % 64 + 128 ∧ v / 64 % 64 + 128 ≤ high := by
    by_cases hfirst : v / 4096 = 0
    · refine ⟨0xa0, 0xbf, ?_, by omega, by omega⟩
      rw [hfirst]
      rfl
    by_cases hbefore : v / 4096 = 0xd
    · refine ⟨0x80, 0x9f, ?_, by omega, by omega⟩
      rw [hbefore]
      rfl
    · refine ⟨0x80, 0xbf, ?_, by omega, by omega⟩
      have hshare : v / 4096 % 16 + 224 - 0xe0 = v / 4096 := by omega
      rw [Lead.of?, if_neg (by omega), if_neg (by omega), if_neg (by omega), if_pos (by omega), hshare]
  obtain ⟨low, high, hlead, hrange⟩ := hlead
  exact ⟨low, high, startCharacter_of_lead (by omega) hlead, hrange⟩

theorem startCharacter_four {v : Nat} (hlow : 65535 < v) (hhigh : v < 0x110000) : ∃ low high,
    startCharacter (v / 262144 % 8 + 240) = ([], .within (v / 262144) 3 low high) ∧
      low ≤ v / 4096 % 64 + 128 ∧ v / 4096 % 64 + 128 ≤ high := by
  have hlead : ∃ low high, Lead.of? (v / 262144 % 8 + 240) = some ⟨v / 262144, 3, low, high⟩ ∧
      low ≤ v / 4096 % 64 + 128 ∧ v / 4096 % 64 + 128 ≤ high := by
    by_cases hfirst : v / 262144 = 0
    · refine ⟨0x90, 0xbf, ?_, by omega, by omega⟩
      rw [hfirst]
      rfl
    by_cases hlast : v / 262144 = 4
    · refine ⟨0x80, 0x8f, ?_, by omega, by omega⟩
      rw [hlast]
      rfl
    · refine ⟨0x80, 0xbf, ?_, by omega, by omega⟩
      have hshare : v / 262144 % 8 + 240 - 0xf0 = v / 262144 := by omega
      rw [Lead.of?, if_neg (by omega), if_neg (by omega), if_neg (by omega), if_neg (by omega),
        if_neg (by omega), if_pos (by omega), hshare]
  obtain ⟨low, high, hlead, hrange⟩ := hlead
  exact ⟨low, high, startCharacter_of_lead (by omega) hlead, hrange⟩

/-! ## 3. Texts -/

/-- A first byte, where it begins a character and does not end it. -/
theorem decodeFrom_first {b : Nat} {s : State} {rest : List UInt8} (hb : b < 256)
    (h : startCharacter b = ([], s)) :
    decodeFrom .between (UInt8.ofNat b :: rest) = decodeFrom s rest := by
  rw [decodeFrom_cons, toNat_ofNat_of_lt hb, step, h, List.nil_append]

/-- **The bytes of a character are read as that character, whatever follows.** -/
theorem decodeFrom_encode (c : Char) (rest : List UInt8) :
    decodeFrom .between (utf8EncodeChar c ++ rest) = c :: decodeFrom .between rest := by
  have hchar : Char.ofNat c.val.toNat = c := Char.ofNat_toNat c
  have hvalid : c.val.toNat < 0xd800 ∨ 0xdfff < c.val.toNat ∧ c.val.toNat < 0x110000 := c.valid
  unfold utf8EncodeChar
  generalize c.val.toNat = v at hchar hvalid
  dsimp only
  have htwice : v / 64 / 64 = v / 4096 := by omega
  have hthrice : v / 4096 / 64 = v / 262144 := by omega
  by_cases hone : v ≤ 127
  · rw [if_pos hone, List.cons_append, List.nil_append, decodeFrom_cons,
      toNat_ofNat_of_lt (by omega), step, startCharacter_one hone, hchar]
    rfl
  rw [if_neg hone]
  by_cases htwo : v ≤ 2047
  · rw [if_pos htwo]
    simp only [List.cons_append, List.nil_append]
    rw [decodeFrom_first (by omega) (startCharacter_two (by omega) htwo),
      decodeFrom_last (by omega) (by omega), hchar]
  rw [if_neg htwo]
  by_cases hthree : v ≤ 65535
  · rw [if_pos hthree]
    simp only [List.cons_append, List.nil_append]
    obtain ⟨low, high, hfirst, hlow, hhigh⟩ :=
      startCharacter_three (by omega) hthree (by omega)
    rw [decodeFrom_first (by omega) hfirst, ← htwice,
      decodeFrom_more (Nat.le_refl 2) hlow hhigh, decodeFrom_last (by omega) (by omega), hchar]
  · rw [if_neg hthree]
    simp only [List.cons_append, List.nil_append]
    obtain ⟨low, high, hfirst, hlow, hhigh⟩ := startCharacter_four (v := v) (by omega) (by omega)
    rw [decodeFrom_first (by omega) hfirst, ← hthrice,
      decodeFrom_more (by decide) hlow hhigh, ← htwice,
      decodeFrom_more (Nat.le_refl 2) (by omega) (by omega), decodeFrom_last (by omega) (by omega),
      hchar]

/-- **The bytes of a text are read as that text.** -/
theorem decodeLossy_bytes (text : String) : decodeLossy (Text.bytes text) = text := by
  have hchars : ∀ chars : List Char,
      decodeFrom .between (chars.flatMap utf8EncodeChar) = chars := by
    intro chars
    induction chars with
    | nil => rfl
    | cons c rest ih => rw [List.flatMap_cons, decodeFrom_encode, ih]
  rw [decodeLossy, Text.bytes_eq, hchars, String.ofList_toList]

end Utf8

end ContractQuery
