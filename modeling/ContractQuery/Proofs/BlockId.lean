import ContractQuery.BlockId
import ContractQuery.Proofs.Decimal
import ContractQuery.Proofs.Identifier

/-!
# Blocks and their names

A name is tried as a word, as a predecessor of head, as a height and as a hash, in this order, and the
first attempt that succeeds decides.

* `Names name b`: the name is one of the block `b`, whatever else was tried before.
* **`parse_eq_ok_iff`**: a name is read as a block if and only if it is a name of it. The order of the
  attempts does not matter, for a height begins with a digit or a sign, a hash with `B`, and the
  others with neither (`parse_of_first`).
* **`parse_text_eq_ok_iff`**: the text of a block is read as that block and as no other, so different
  blocks have different texts.
-/

namespace ContractQuery

namespace BlockId

open Decimal (Numeral)

/-! ## 1. Names -/

/-- The text is a name of the block. -/
inductive Names : String → BlockId → Prop
  | head : Names "head" .head
  | genesis : Names "genesis" .genesis
  | headOffset {name : String} {digits : List Char} {offset : UInt32}
    (hname : name.toList = "head~".toList ++ digits) (h : Numeral false digits offset.toNat) :
    Names name (.headOffset offset)
  | level {name : String} {height : Int64} (h : Numeral true name.toList height.toInt) :
    Names name (.level height)
  | hash (block : BlockHash) : Names block.text (.hash block)

/-- The text of a block is a name of it. -/
theorem names_text (b : BlockId) : Names b.text b := by
  cases b with
  | head => exact .head
  | genesis => exact .genesis
  | level height =>
    have hread := Decimal.readInt64_renderInt64 height
    exact .level (Decimal.readInt64_eq_ok_iff.mp hread)
  | hash block => exact .hash block
  | headOffset offset =>
    exact .headOffset String.toList_ofList (Decimal.numeral_renderNat false offset.toNat)

/-! ## 2. How names begin -/

theorem offsetText?_eq_some_iff {name digits : List Char} :
    offsetText? name = some digits ↔ name = "head~".toList ++ digits := by
  unfold offsetText?
  rw [Option.ite_none_right_eq_some, List.isPrefixOf_iff_prefix]
  constructor
  · intro ⟨hfront, hdrop⟩
    obtain ⟨rest, rfl⟩ := hfront
    cases hdrop
    rfl
  · intro h
    rw [h]
    exact ⟨List.prefix_append _ _, rfl⟩

/-- The text of a hash begins with `B`. -/
theorem first_of_hash (block : BlockHash) : ∃ rest, block.text.toList = 'B' :: rest := by
  obtain ⟨c, hc⟩ := Identifier.accepts_iff.mp block.accepted
  have hversion : c.version = ⟨"B", [1, 52]⟩ := List.mem_singleton.mp c.known
  obtain ⟨rest, hrest⟩ := c.opening_prefix
  rw [hversion, hc] at hrest
  exact ⟨rest, hrest.symm⟩

/-- A numeral begins with none of the letters that the other names begin with. -/
theorem ne_letter_of_numeral {signed : Bool} {c : Char} {rest : List Char} {n : Int}
    (h : Numeral signed (c :: rest) n) : c ≠ 'h' ∧ c ≠ 'g' ∧ c ≠ 'B' := by
  obtain ⟨c', rest', heq, hfirst⟩ := h.first
  cases heq
  rcases hfirst with hdigit | hplus | hminus
  · have hletter : ∀ letter : Char, letter.isDigit = false → c ≠ letter := by
      intro letter hletter hc
      rw [hc, hletter] at hdigit
      cases hdigit
    exact ⟨hletter 'h' rfl, hletter 'g' rfl, hletter 'B' rfl⟩
  · rw [hplus]
    decide
  · rw [hminus]
    decide

/-- A name with another beginning than those of the words is a height or a hash. -/
theorem parse_of_first {name : String} {c : Char} {rest : List Char} (hname : name.toList = c :: rest)
    (hh : c ≠ 'h') (hg : c ≠ 'g') : parse name =
      match Decimal.readInt64 name with
      | .ok height => .ok (.level height)
      | .error _ =>
        match Identifier.parse .blockHash name with
        | .ok block => .ok (.hash block)
        | .error _ => .error ⟨.blockId, name⟩ := by
  have hhead : name ≠ "head" := by
    intro h
    rw [h] at hname
    cases hname
    exact hh rfl
  have hgenesis : name ≠ "genesis" := by
    intro h
    rw [h] at hname
    cases hname
    exact hg rfl
  unfold parse
  rw [if_neg hhead, if_neg hgenesis]
  cases hoffset : offsetText? name.toList with
  | none => rfl
  | some digits =>
    have happend := offsetText?_eq_some_iff.mp hoffset
    rw [hname] at happend
    cases happend
    exact absurd rfl hh

/-! ## 3. Reading names -/

/-- A name of a block is read as that block. -/
theorem Names.parse {name : String} {b : BlockId} (h : Names name b) : BlockId.parse name = .ok b := by
  cases h with
  | head => rfl
  | genesis => rfl
  | @headOffset _ digits offset hname h =>
    have hhead : name ≠ "head" := by
      intro heq
      rw [heq] at hname
      cases hname
    have hgenesis : name ≠ "genesis" := by
      intro heq
      rw [heq] at hname
      cases hname
    have hread : Decimal.readUInt32 digits = .ok offset := Decimal.readUInt32_eq_ok_iff.mpr h
    unfold BlockId.parse
    rw [if_neg hhead, if_neg hgenesis, offsetText?_eq_some_iff.mpr hname]
    simp only [hread]
  | @level _ height h =>
    have hread : Decimal.readInt64 name = .ok height := Decimal.readInt64_eq_ok_iff.mpr h
    obtain ⟨c, rest, hname, _⟩ := h.first
    rw [hname] at h
    obtain ⟨hh, hg, _⟩ := ne_letter_of_numeral h
    rw [parse_of_first hname hh hg, hread]
  | hash block =>
    obtain ⟨rest, hname⟩ := first_of_hash block
    have hparse : Identifier.parse .blockHash block.text = .ok block :=
      Identifier.parse_eq_ok_iff.mpr rfl
    rw [parse_of_first hname (by decide) (by decide)]
    cases hread : Decimal.readInt64 block.text with
    | ok height =>
      have hnumeral := Decimal.readInt64_eq_ok_iff.mp hread
      rw [hname] at hnumeral
      exact absurd rfl (ne_letter_of_numeral hnumeral).2.2
    | error fault => simp only [hparse]

/-- What a name is read as is a block of that name. -/
theorem names_of_parse {name : String} {b : BlockId} (h : parse name = .ok b) : Names name b := by
  unfold parse at h
  split at h
  · rename_i hname
    cases h
    rw [hname]
    exact .head
  split at h
  · rename_i hname
    cases h
    rw [hname]
    exact .genesis
  split at h
  · rename_i digits hdigits
    split at h
    · rename_i offset hoffset
      cases h
      exact .headOffset (offsetText?_eq_some_iff.mp hdigits) (Decimal.readUInt32_eq_ok_iff.mp hoffset)
    · cases h
  · split at h
    · rename_i height hheight
      cases h
      exact .level (Decimal.readInt64_eq_ok_iff.mp hheight)
    · split at h
      · rename_i block hblock
        cases h
        rw [← Identifier.parse_eq_ok_iff.mp hblock]
        exact .hash block
      · cases h

/-- **A name is read as a block if and only if it is a name of that block.** -/
theorem parse_eq_ok_iff {name : String} {b : BlockId} : parse name = .ok b ↔ Names name b :=
  ⟨names_of_parse, Names.parse⟩

theorem parse_text (b : BlockId) : parse b.text = .ok b := parse_eq_ok_iff.mpr (names_text b)

/-- Different blocks have different texts. -/
theorem text_inj {b b' : BlockId} : b.text = b'.text ↔ b = b' := by
  constructor
  · intro h
    have hread := parse_text b
    rw [h, parse_text] at hread
    exact (Except.ok.inj hread).symm
  · exact congrArg text

/-- **The text of a block is read as that block and as no other, and two blocks have the same text
    only if they are the same.** -/
theorem parse_text_eq_ok_iff (b b' : BlockId) :
    (parse b.text = .ok b' ↔ b' = b) ∧ (b.text = b'.text ↔ b = b') := by
  refine ⟨?_, text_inj⟩
  rw [parse_text, Except.ok.injEq]
  exact eq_comm

end BlockId

end ContractQuery
