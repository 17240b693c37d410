import ContractQuery.Proofs.BlockId

/-!
# The language of block names

`Names` says what a name names, and the numbers in it are words. Here the texts are described as they
are written, with numbers of any size, and so also those that are refused because of a number.

* `SpellsOffset`, `SpellsHeight`: the two forms with a number. With the two words and the hashes these
  are five forms, and no text has two of them (`forms_exclusive`): the forms begin with different
  characters, save for `head` and what begins with `head~`.
* `Foreign`: the text has none of the forms, or a number in it is out of range.
* `error_of_parse`: whatever was tried last, the error is about a block and shows the whole text.
* **`parse_iff_language`**: which texts are read as which blocks, and what is reported of the others.
-/

namespace ContractQuery

namespace BlockId

open Decimal (Numeral)
open Identifier (Kind)

/-! ## 1. Forms with a number -/

/-- The text is `head~` and then a numeral of the number, without `-`. -/
def SpellsOffset (name : String) (n : Nat) : Prop :=
  ∃ digits, name.toList = "head~".toList ++ digits ∧ Numeral false digits n

/-- The text is a numeral of the number. -/
def SpellsHeight (name : String) (n : Int) : Prop := Numeral true name.toList n

/-- The numbers of offsets are those of unsigned words of 32 bits. -/
theorem parse_headOffset_iff {name : String} {n : Nat} :
    (∃ offset : UInt32, offset.toNat = n ∧ parse name = .ok (.headOffset offset)) ↔
      SpellsOffset name n ∧ n < 2 ^ 32 := by
  simp only [parse_eq_ok_iff]
  constructor
  · intro ⟨offset, hn, hnames⟩
    rw [← hn]
    cases hnames with
    | headOffset hname hnumeral => exact ⟨⟨_, hname, hnumeral⟩, offset.toNat_lt⟩
  · intro ⟨⟨digits, hname, hnumeral⟩, hlt⟩
    have hword : (UInt32.ofNat n).toNat = n := UInt32.toNat_ofNat_of_lt' hlt
    rw [← hword] at hnumeral
    exact ⟨UInt32.ofNat n, hword, .headOffset hname hnumeral⟩

/-- The numbers of heights are those of signed words of 64 bits. -/
theorem parse_level_iff {name : String} {n : Int} :
    (∃ height : Int64, height.toInt = n ∧ parse name = .ok (.level height)) ↔
      SpellsHeight name n ∧ -2 ^ 63 ≤ n ∧ n < 2 ^ 63 := by
  simp only [parse_eq_ok_iff]
  constructor
  · intro ⟨height, hn, hnames⟩
    rw [← hn]
    cases hnames with
    | level hnumeral => exact ⟨hnumeral, height.le_toInt, height.toInt_lt⟩
  · intro ⟨hnumeral, hlow, hhigh⟩
    have hword : (Int64.ofInt n).toInt = n := Int64.toInt_ofInt_of_le hlow hhigh
    unfold SpellsHeight at hnumeral
    rw [← hword] at hnumeral
    exact ⟨Int64.ofInt n, hword, .level hnumeral⟩

/-- A text is read as a hash if and only if it is one, and then it is the hash itself. -/
theorem parse_hash_iff {name : String} {block : BlockHash} :
    parse name = .ok (.hash block) ↔ block.text = name := by
  rw [parse_eq_ok_iff]
  constructor
  · intro hnames
    cases hnames
    rfl
  · intro h
    rw [← h]
    exact .hash block

theorem exists_parse_hash_iff {name : String} :
    (∃ block, parse name = .ok (.hash block)) ↔ Kind.blockHash.accepts name.toList = true := by
  simp only [parse_hash_iff]
  constructor
  · intro ⟨block, h⟩
    rw [← h]
    exact block.accepted
  · intro h
    exact ⟨⟨name, h⟩, rfl⟩

/-! ## 2. No text has two forms -/

/-- A text that begins with one of three letters is no numeral. -/
theorem not_spellsHeight {name : String} {c : Char} {rest : List Char} (hname : name.toList = c :: rest)
    (hc : c = 'h' ∨ c = 'g' ∨ c = 'B') (n : Int) : ¬ SpellsHeight name n := by
  intro h
  unfold SpellsHeight at h
  rw [hname] at h
  obtain ⟨hh, hg, hB⟩ := ne_letter_of_numeral h
  rcases hc with hc | hc | hc
  · exact hh hc
  · exact hg hc
  · exact hB hc

/-- A text that begins with another letter than `B` is no hash. -/
theorem not_accepts_of_first {name : String} {c : Char} {rest : List Char}
    (hname : name.toList = c :: rest) (hc : c ≠ 'B') :
    ¬ Kind.blockHash.accepts name.toList = true := by
  intro h
  obtain ⟨rest', hrest⟩ := first_of_hash ⟨name, h⟩
  rw [hname] at hrest
  exact hc (List.cons.inj hrest).1

/-- **No text has two of the five forms**, whatever the size of a number in it. -/
theorem forms_exclusive (name : String) :
    [name = "head", name = "genesis", ∃ n, SpellsOffset name n, ∃ n, SpellsHeight name n,
      Kind.blockHash.accepts name.toList = true].Pairwise fun p q => ¬ (p ∧ q) := by
  have hhead : name = "head" → name.toList = ['h', 'e', 'a', 'd'] := fun h => by rw [h]; rfl
  have hgenesis : name = "genesis" → name.toList = ['g', 'e', 'n', 'e', 's', 'i', 's'] :=
    fun h => by rw [h]; rfl
  have hoffset : (∃ n, SpellsOffset name n) →
      ∃ digits, name.toList = 'h' :: 'e' :: 'a' :: 'd' :: '~' :: digits :=
    fun ⟨_, digits, hname, _⟩ => ⟨digits, hname⟩
  -- of two words the characters differ, and nothing else begins like a numeral or a hash
  refine .cons (fun q hq => ?_) (.cons (fun q hq => ?_) (.cons (fun q hq => ?_)
    (.cons (fun q hq => ?_) (.cons nofun .nil))))
  · simp only [List.mem_cons, List.not_mem_nil, or_false] at hq
    rcases hq with rfl | rfl | rfl | rfl
    · intro ⟨h, hother⟩
      have hchars := hgenesis hother
      rw [hhead h] at hchars
      cases hchars
    · intro ⟨h, hother⟩
      obtain ⟨digits, hchars⟩ := hoffset hother
      rw [hhead h] at hchars
      cases hchars
    · intro ⟨h, n, hn⟩
      exact not_spellsHeight (hhead h) (.inl rfl) n hn
    · intro ⟨h, haccepts⟩
      exact not_accepts_of_first (hhead h) (by decide) haccepts
  · simp only [List.mem_cons, List.not_mem_nil, or_false] at hq
    rcases hq with rfl | rfl | rfl
    · intro ⟨h, hother⟩
      obtain ⟨digits, hchars⟩ := hoffset hother
      rw [hgenesis h] at hchars
      cases hchars
    · intro ⟨h, n, hn⟩
      exact not_spellsHeight (hgenesis h) (.inr (.inl rfl)) n hn
    · intro ⟨h, haccepts⟩
      exact not_accepts_of_first (hgenesis h) (by decide) haccepts
  · simp only [List.mem_cons, List.not_mem_nil, or_false] at hq
    rcases hq with rfl | rfl
    · intro ⟨h, n, hn⟩
      obtain ⟨digits, hchars⟩ := hoffset h
      exact not_spellsHeight hchars (.inl rfl) n hn
    · intro ⟨h, haccepts⟩
      obtain ⟨digits, hchars⟩ := hoffset h
      exact not_accepts_of_first hchars (by decide) haccepts
  · obtain rfl := List.mem_singleton.mp hq
    intro ⟨⟨n, hn⟩, haccepts⟩
    obtain ⟨rest, hchars⟩ := first_of_hash ⟨name, haccepts⟩
    exact not_spellsHeight hchars (.inr (.inr rfl)) n hn

/-! ## 3. Texts that are refused -/

/-- The text names no block: it has none of the forms, or the number in it is out of range. -/
structure Foreign (name : String) : Prop where
  ne_head : name ≠ "head"
  ne_genesis : name ≠ "genesis"
  offset : ∀ n, SpellsOffset name n → 2 ^ 32 ≤ n
  height : ∀ n, SpellsHeight name n → n < -2 ^ 63 ∨ 2 ^ 63 ≤ n
  hash : Kind.blockHash.accepts name.toList = false

theorem foreign_iff {name : String} : Foreign name ↔ ∀ b, parse name ≠ .ok b := by
  constructor
  · intro h b hb
    cases b with
    | head =>
      cases parse_eq_ok_iff.mp hb
      exact h.ne_head rfl
    | genesis =>
      cases parse_eq_ok_iff.mp hb
      exact h.ne_genesis rfl
    | headOffset offset =>
      obtain ⟨hn, hlt⟩ := parse_headOffset_iff.mp ⟨offset, rfl, hb⟩
      have hle := h.offset _ hn
      omega
    | level height =>
      obtain ⟨hn, hlow, hhigh⟩ := parse_level_iff.mp ⟨height, rfl, hb⟩
      have hout := h.height _ hn
      omega
    | hash block =>
      have haccepts := exists_parse_hash_iff.mp ⟨block, hb⟩
      rw [h.hash] at haccepts
      cases haccepts
  · intro h
    refine ⟨fun hname => ?_, fun hname => ?_, fun n hn => ?_, fun n hn => ?_, ?_⟩
    · exact h .head (parse_eq_ok_iff.mpr (hname ▸ .head))
    · exact h .genesis (parse_eq_ok_iff.mpr (hname ▸ .genesis))
    · refine Nat.le_of_not_lt fun hlt => ?_
      obtain ⟨offset, _, hb⟩ := parse_headOffset_iff.mpr ⟨hn, hlt⟩
      exact h _ hb
    · refine Classical.byContradiction fun hin => ?_
      obtain ⟨height, _, hb⟩ := parse_level_iff.mpr ⟨hn, by omega, by omega⟩
      exact h _ hb
    · refine Bool.eq_false_iff.mpr fun haccepts => ?_
      obtain ⟨block, hb⟩ := exists_parse_hash_iff.mpr haccepts
      exact h _ hb

/-- **The error is about a block and shows the whole text.** What went wrong with an offset, a height or
    a hash is not told. -/
theorem error_of_parse {name : String} {e : ParseError} (h : parse name = .error e) :
    e = ⟨.blockId, name⟩ := by
  unfold parse at h
  split at h
  · cases h
  split at h
  · cases h
  split at h
  · split at h
    · cases h
    · exact (Except.error.inj h).symm
  · split at h
    · cases h
    · split at h
      · cases h
      · exact (Except.error.inj h).symm

theorem parse_eq_error_iff {name : String} {e : ParseError} :
    parse name = .error e ↔ Foreign name ∧ e = ⟨.blockId, name⟩ := by
  rw [foreign_iff]
  constructor
  · intro h
    refine ⟨fun b hb => ?_, error_of_parse h⟩
    rw [h] at hb
    cases hb
  · intro ⟨hno, he⟩
    cases h : parse name with
    | ok b => exact absurd h (hno b)
    | error e' => rw [he, error_of_parse h]

/-! ## 4. The language -/

/-- **A text is read as the latest block if and only if it is `head`; as the first if and only if it is
    `genesis`; as an offset if and only if it is `head~` and a numeral without `-` of a number of 32
    bits; as a height if and only if it is a numeral of a signed number of 64 bits; and as a hash if
    and only if it is one, and then the hash is the text. No text has two of these forms. Every other
    text is refused as a block's name, and the error shows the whole of it. What a text was read as is
    read again from its own text.** -/
theorem parse_iff_language (name : String) :
    (parse name = .ok .head ↔ name = "head") ∧
    (parse name = .ok .genesis ↔ name = "genesis") ∧
    (∀ n : Nat, (∃ offset : UInt32, offset.toNat = n ∧ parse name = .ok (.headOffset offset)) ↔
      SpellsOffset name n ∧ n < 2 ^ 32) ∧
    (∀ n : Int, (∃ height : Int64, height.toInt = n ∧ parse name = .ok (.level height)) ↔
      SpellsHeight name n ∧ -2 ^ 63 ≤ n ∧ n < 2 ^ 63) ∧
    ((∃ block, parse name = .ok (.hash block)) ↔ Kind.blockHash.accepts name.toList = true) ∧
    (∀ block, parse name = .ok (.hash block) ↔ block.text = name) ∧
    [name = "head", name = "genesis", ∃ n, SpellsOffset name n, ∃ n, SpellsHeight name n,
      Kind.blockHash.accepts name.toList = true].Pairwise (fun p q => ¬ (p ∧ q)) ∧
    (∀ e, parse name = .error e ↔ Foreign name ∧ e = ⟨.blockId, name⟩) ∧
    (∀ e, parse name = .error e → e.subject.label = "block id" ∧ e.value = name) ∧
    ∀ b, parse name = .ok b → parse b.text = .ok b := by
  refine ⟨?_, ?_, fun n => parse_headOffset_iff, fun n => parse_level_iff, exists_parse_hash_iff,
    fun block => parse_hash_iff, forms_exclusive name, fun e => parse_eq_error_iff, fun e h => ?_,
    fun b _ => parse_text b⟩
  · rw [parse_eq_ok_iff]
    exact ⟨fun h => by cases h; rfl, fun h => h ▸ .head⟩
  · rw [parse_eq_ok_iff]
    exact ⟨fun h => by cases h; rfl, fun h => h ▸ .genesis⟩
  · rw [error_of_parse h]
    exact ⟨rfl, rfl⟩

/-- The largest offset with a sign and a zero before it, and the number after it, which is refused with
    its `head~`. -/
theorem parse_largest_offset :
    (parse "head~+04294967295" = .ok (.headOffset 4294967295) ∧
      parse (BlockId.headOffset 4294967295).text = .ok (.headOffset 4294967295)) ∧
    ∃ e, parse "head~4294967296" = .error e ∧ e.subject.label = "block id" ∧
      e.value = "head~4294967296" := by
  have hok : parse "head~+04294967295" = .ok (.headOffset 4294967295) := rfl
  have herror : parse "head~4294967296" = .error ⟨.blockId, "head~4294967296"⟩ := rfl
  obtain ⟨-, -, -, -, -, -, -, -, -, hagain⟩ := parse_iff_language "head~+04294967295"
  obtain ⟨-, -, -, -, -, -, -, -, hshown, -⟩ := parse_iff_language "head~4294967296"
  exact ⟨⟨hok, hagain _ hok⟩, _, herror, hshown _ herror⟩

end BlockId

end ContractQuery
