import ContractQuery.Proofs.Body.Grammatical

/-!
# What strings spell

One text can be written as a string in many ways, since every character may stand for itself or be
escaped, and some may be escaped in two halves. What a string spells is said here of its pieces, without
reading them.

* `Spells`, `Literal.Means`: what pieces spell, and what a string means.
* `joinPieces_of_spells`, `spells_of_joinPieces`: pieces are read as what they spell, and as nothing
  else, provided the halves among them have no more than ten bits. In a string of the grammar that is so
  (`Characters.areHalves`).
* **`decode_string_eq_ok_iff`**: a text is decoded as a string if and only if it is a string that means
  it.
-/

namespace ContractQuery

namespace Json

/-! ## 1. Pieces -/

/-- The pieces spell the characters. Two halves after each other spell one of the characters that come
    after the first 65536. -/
inductive Spells : List Piece → List Char → Prop
  | nil : Spells [] []
  | char {c : Char} {pieces : List Piece} {cs : List Char} (h : Spells pieces cs) :
    Spells (.char c :: pieces) (c :: cs)
  | halves {high low : Nat} {c : Char} {pieces : List Piece} {cs : List Char}
    (hc : c.toNat = 0x10000 + high * 0x400 + low) (h : Spells pieces cs) :
    Spells (.highHalf high :: .lowHalf low :: pieces) (c :: cs)

/-- The string has its end, and means the text. -/
structure Literal.Means (s : Literal) (text : String) : Prop where
  closed : s.stop = none
  spells : Spells s.pieces text.toList

/-- The half has ten bits. -/
def Piece.IsHalf : Piece → Prop
  | .char _ => True
  | .highHalf bits => bits < 0x400
  | .lowHalf bits => bits < 0x400

theorem Piece.isHalf_ofUnit (code : Nat) : (Piece.ofUnit code).IsHalf := by
  unfold ofUnit
  by_cases hhigh : 0xd800 ≤ code ∧ code < 0xdc00
  · rw [if_pos hhigh]
    show code - 0xd800 < 0x400
    omega
  · rw [if_neg hhigh]
    by_cases hlow : 0xdc00 ≤ code ∧ code < 0xe000
    · rw [if_pos hlow]
      show code - 0xdc00 < 0x400
      omega
    · rw [if_neg hlow]
      trivial

/-- In a string of the grammar the halves are halves. -/
theorem Characters.areHalves {cs : List Char} {pieces : List Piece} (h : Characters cs pieces) :
    ∀ piece ∈ pieces, piece.IsHalf := by
  induction h with
  | nil => simp
  | plain _ _ _ _ ih => exact List.forall_mem_cons.mpr ⟨trivial, ih⟩
  | escaped _ _ ih => exact List.forall_mem_cons.mpr ⟨trivial, ih⟩
  | unit hunit _ ih =>
    refine List.forall_mem_cons.mpr ⟨?_, ih⟩
    simp only [Piece.ofHex?, Option.bind_eq_bind, Option.bind_eq_some_iff] at hunit
    obtain ⟨a, _, b, _, c, _, d, _, hpiece⟩ := hunit
    cases hpiece
    exact Piece.isHalf_ofUnit _

theorem spells_char (cs : List Char) : Spells (cs.map .char) cs := by
  induction cs with
  | nil => exact .nil
  | cons c rest ih => exact .char ih

/-- A text that was printed means itself. -/
theorem means_literalOf (text : String) : (literalOf text).Means text := ⟨rfl, spells_char _⟩

end Json

namespace Body

open Json (Document ElementText Literal Node Piece Spells)

/-! ## 2. Reading -/

/-- Pieces are read as what they spell. -/
theorem joinPieces_of_spells {pieces : List Piece} {cs : List Char} (h : Spells pieces cs) :
    joinPieces none pieces = .ok cs := by
  induction h with
  | nil => rfl
  | char _ ih =>
    rw [joinPieces, ih]
    rfl
  | halves hc _ ih =>
    rw [joinPieces, ih, ← hc, Char.ofNat_toNat]
    rfl

/-- Two halves are a character. -/
theorem toNat_halves {high low : Nat} (hhigh : high < 0x400) (hlow : low < 0x400) :
    (Char.ofNat (0x10000 + high * 0x400 + low)).toNat = 0x10000 + high * 0x400 + low := by
  have hvalid : (0x10000 + high * 0x400 + low).isValidChar := .inr ⟨by omega, by omega⟩
  rw [Char.ofNat, dif_pos hvalid]
  rfl

/-- Pieces are read as nothing else. -/
theorem spells_of_joinPieces : ∀ {pieces : List Piece} {cs : List Char},
    (∀ piece ∈ pieces, piece.IsHalf) → joinPieces none pieces = .ok cs → Spells pieces cs
  | [], cs, _, h => by
    cases h
    exact .nil
  | .char c :: rest, cs, hhalves, h => by
    obtain ⟨tail, htail, rfl⟩ := map_eq_ok_iff.mp h
    exact .char (spells_of_joinPieces (List.forall_mem_cons.mp hhalves).2 htail)
  | .highHalf high :: .lowHalf low :: rest, cs, hhalves, h => by
    obtain ⟨hhigh, hlow, hrest⟩ :
        high < 0x400 ∧ low < 0x400 ∧ ∀ piece ∈ rest, piece.IsHalf := by
      simpa [Piece.IsHalf] using hhalves
    obtain ⟨tail, htail, rfl⟩ := map_eq_ok_iff.mp h
    exact .halves (toNat_halves hhigh hlow) (spells_of_joinPieces hrest htail)
  | .highHalf _ :: [], _, _, h => nomatch h
  | .highHalf _ :: .char _ :: _, _, _, h => nomatch h
  | .highHalf _ :: .highHalf _ :: _, _, _, h => nomatch h
  | .lowHalf _ :: _, _, _, h => nomatch h

theorem readLiteral_of_means {s : Literal} {text : String} (h : s.Means text) :
    readLiteral s = .ok text := by
  rw [readLiteral, h.closed, joinPieces_of_spells h.spells]
  exact congrArg Except.ok String.ofList_toList

/-- A string of the grammar is read as nothing else than what it means. -/
theorem means_of_readLiteral {cs : List Char} {s : Literal} {text : String}
    (hgrammar : ElementText cs (.string s)) (h : readLiteral s = .ok text) : s.Means text := by
  cases hgrammar with
  | mk _ hvalue _ =>
    cases hvalue with
    | string hchars =>
      obtain ⟨chars, hjoin, rfl⟩ := map_eq_ok_iff.mp h
      refine ⟨rfl, ?_⟩
      rw [String.toList_ofList]
      exact spells_of_joinPieces hchars.areHalves hjoin

/-! ## 3. Texts -/

/-- The text is a string that means this. -/
def StringText (text meant : String) : Prop :=
  ∃ s : Literal, ElementText text.toList (.string s) ∧ s.Means meant

/-- A string that was printed means what it was printed of. -/
theorem stringText_text (text : String) : StringText (Json.Value.string text).text text :=
  ⟨_, elementText_text (.string text), Json.means_literalOf text⟩

/-- **A text is decoded as a string if and only if it is a string that means it.** -/
theorem decode_string_eq_ok_iff {text meant : String} :
    decode string text = .ok meant ↔ StringText text meant := by
  constructor
  · intro h
    have hgrammar := Carried.balance.elementText h
    obtain ⟨hread, _⟩ := decode_eq_ok_iff.mp h
    cases hroot : (Document.ofText text).root with
    | string s =>
      rw [hroot] at hgrammar hread
      exact ⟨s, hgrammar, means_of_readLiteral hgrammar hread⟩
    | _ =>
      rw [hroot] at hread
      cases hread
  · intro ⟨s, hgrammar, hmeans⟩
    rw [decode_of_elementText string hgrammar]
    exact readLiteral_of_means hmeans

end Body

end ContractQuery
