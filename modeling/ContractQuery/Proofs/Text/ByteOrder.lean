import ContractQuery.NameMap
import Mathlib.Data.List.Basic

/-!
# The order of texts and of their bytes

Texts are ordered character by character. UTF-8 was made so that the order of their bytes is the same:
a character with more bytes begins with a greater one, and of two that have as many bytes the greater
number has the greater byte where they first differ.

* `bytes`: the bytes of a text.
* `encode_lt`: one character. **`lt_iff_bytes_lt`**: whole texts.
-/

namespace ContractQuery

namespace Text

open String (utf8EncodeChar)

/-- The bytes of a text in UTF-8. -/
def bytes (text : String) : List UInt8 := text.toByteArray.data.toList

theorem bytes_eq (text : String) : bytes text = text.toList.flatMap utf8EncodeChar := by
  unfold bytes
  conv => lhs; rw [← @String.ofList_toList text, String.toByteArray_ofList]
  simp [List.utf8Encode]

/-! ## 1. Characters -/

section Bytes

variable {a b v w : Nat} {front back : List UInt8}

/-- The first byte decides, unless it is the same. -/
theorem cons_lt_cons (ha : a < 256) (hb : b < 256) (h : a < b ∨ a = b ∧ front < back) :
    UInt8.ofNat a :: front < UInt8.ofNat b :: back := by
  rw [List.cons_lt_cons_iff, UInt8.lt_iff_toNat_lt, UInt8.toNat_ofNat', UInt8.toNat_ofNat',
    Nat.mod_eq_of_lt ha, Nat.mod_eq_of_lt hb]
  rcases h with h | ⟨h, hrest⟩
  · exact .inl h
  · exact .inr ⟨by rw [h], hrest⟩

/-- The last byte, where the bytes before it are the same. -/
theorem last_lt (hlt : v < w) (hsame : v / 64 = w / 64) :
    UInt8.ofNat (v % 64 + 128) :: front < UInt8.ofNat (w % 64 + 128) :: back :=
  cons_lt_cons (by omega) (by omega) (.inl (by omega))

/-- The last two bytes. -/
theorem lastTwo_lt (hlt : v < w) (hsame : v / 4096 = w / 4096) :
    UInt8.ofNat (v / 64 % 64 + 128) :: UInt8.ofNat (v % 64 + 128) :: front <
      UInt8.ofNat (w / 64 % 64 + 128) :: UInt8.ofNat (w % 64 + 128) :: back := by
  by_cases hnext : v / 64 = w / 64
  · exact cons_lt_cons (by omega) (by omega) (.inr ⟨by omega, last_lt hlt hnext⟩)
  · exact cons_lt_cons (by omega) (by omega) (.inl (by omega))

/-- The last three bytes. -/
theorem lastThree_lt (hlt : v < w) (hsame : v / 262144 = w / 262144) :
    UInt8.ofNat (v / 4096 % 64 + 128) :: UInt8.ofNat (v / 64 % 64 + 128) ::
        UInt8.ofNat (v % 64 + 128) :: front <
      UInt8.ofNat (w / 4096 % 64 + 128) :: UInt8.ofNat (w / 64 % 64 + 128) ::
        UInt8.ofNat (w % 64 + 128) :: back := by
  by_cases hnext : v / 4096 = w / 4096
  · exact cons_lt_cons (by omega) (by omega) (.inr ⟨by omega, lastTwo_lt hlt hnext⟩)
  · exact cons_lt_cons (by omega) (by omega) (.inl (by omega))

end Bytes

/-- **Whatever follows, the lesser character comes first.** -/
theorem encode_lt {c d : Char} (h : c < d) (front back : List UInt8) :
    utf8EncodeChar c ++ front < utf8EncodeChar d ++ back := by
  have hlt : c.val.toNat < d.val.toNat := h
  have hlast : d.val.toNat < 0x110000 := by
    have hvalid := d.valid
    unfold UInt32.isValidChar Nat.isValidChar at hvalid
    omega
  unfold utf8EncodeChar
  generalize c.val.toNat = v at hlt
  generalize d.val.toNat = w at hlt hlast
  dsimp only
  -- with as many bytes the first of them decides, or the ones after it; else the first one does
  by_cases hone : w ≤ 127
  · have hone' : v ≤ 127 := by omega
    rw [if_pos hone, if_pos hone']
    exact cons_lt_cons (by omega) (by omega) (.inl hlt)
  rw [if_neg hone]
  by_cases htwo : w ≤ 2047
  · have htwo' : v ≤ 2047 := by omega
    rw [if_pos htwo]
    by_cases hone' : v ≤ 127
    · rw [if_pos hone']
      exact cons_lt_cons (by omega) (by omega) (.inl (by omega))
    · rw [if_neg hone', if_pos htwo']
      by_cases hsame : v / 64 = w / 64
      · exact cons_lt_cons (by omega) (by omega) (.inr ⟨by omega, last_lt hlt hsame⟩)
      · exact cons_lt_cons (by omega) (by omega) (.inl (by omega))
  rw [if_neg htwo]
  by_cases hthree : w ≤ 65535
  · have hthree' : v ≤ 65535 := by omega
    rw [if_pos hthree]
    by_cases htwo' : v ≤ 2047
    · split_ifs <;> exact cons_lt_cons (by omega) (by omega) (.inl (by omega))
    · have hone' : ¬ v ≤ 127 := by omega
      rw [if_neg hone', if_neg htwo', if_pos hthree']
      by_cases hsame : v / 4096 = w / 4096
      · exact cons_lt_cons (by omega) (by omega) (.inr ⟨by omega, lastTwo_lt hlt hsame⟩)
      · exact cons_lt_cons (by omega) (by omega) (.inl (by omega))
  rw [if_neg hthree]
  by_cases hthree' : v ≤ 65535
  · split_ifs <;> exact cons_lt_cons (by omega) (by omega) (.inl (by omega))
  · have hone' : ¬ v ≤ 127 := by omega
    have htwo' : ¬ v ≤ 2047 := by omega
    rw [if_neg hone', if_neg htwo', if_neg hthree']
    by_cases hsame : v / 262144 = w / 262144
    · exact cons_lt_cons (by omega) (by omega) (.inr ⟨by omega, lastThree_lt hlt hsame⟩)
    · exact cons_lt_cons (by omega) (by omega) (.inl (by omega))

/-! ## 2. Texts -/

theorem flatMap_encode_lt : ∀ {cs ds : List Char}, cs < ds →
    cs.flatMap utf8EncodeChar < ds.flatMap utf8EncodeChar
  | [], d :: ds, _ => by
    rw [List.flatMap_nil, List.flatMap_cons]
    unfold utf8EncodeChar
    dsimp only
    split_ifs <;> exact List.nil_lt_cons _ _
  | c :: cs, d :: ds, h => by
    rw [List.flatMap_cons, List.flatMap_cons]
    rcases List.cons_lt_cons_iff.mp h with hlt | ⟨rfl, hrest⟩
    · exact encode_lt hlt _ _
    · exact List.append_left_lt (flatMap_encode_lt hrest)

/-- **The order of texts is that of their bytes.** -/
theorem lt_iff_bytes_lt {a b : String} : a < b ↔ bytes a < bytes b := by
  have hlt : ∀ {a b : String}, a < b → bytes a < bytes b := by
    intro a b h
    rw [bytes_eq, bytes_eq]
    exact flatMap_encode_lt h
  refine ⟨hlt, fun h => ?_⟩
  by_contra hnot
  by_cases hsame : a = b
  · rw [hsame] at h
    exact List.lt_irrefl _ h
  · exact List.lt_asymm h (hlt (NameMap.lt_of_not_lt_of_ne hnot hsame))

end Text

end ContractQuery
