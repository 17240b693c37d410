import ContractQuery.Identifier
import ContractQuery.Proofs.Base58

/-!
# Identifiers are the texts of their contents

A text is tested twice before it is an identifier: how it looks, and what bytes it stands for. Neither
test knows of the other.

* `Kind.Content` is what an identifier of a kind says: a version and a payload. `Content.text` is how
  it is written.
* `Version.Leads`: the numbers that begin with the bytes of a version are, in base 58, numbers that
  begin with its opening. This is an inequality between powers of 256 and of 58 for each version, and
  the only place where the versions are looked at one by one.
* **`parse_iff_content`**: the identifiers of a kind are the texts of its contents, each of exactly
  one, and no text is an identifier of two kinds.
* **`opening_iff_bytes`**: an address begins as text like one version if and only if its bytes begin
  like that version; so `Address.isContract` tells the version from the text alone.
-/

namespace ContractQuery

namespace Identifier

open Base58 (charOf checksum checksumSize digitOf? digits encode encodeChecked ofDigits)

/-! ## 1. Contents -/

/-- What an identifier of a kind says. -/
structure Kind.Content (kind : Kind) where
  version : Version
  known : version ∈ kind.versions
  payload : List UInt8
  size : payload.length = kind.payloadSize

/-- The bytes of a content: those of its version, and the payload. -/
def Kind.Content.bytes {kind : Kind} (c : kind.Content) : List UInt8 := c.version.bytes ++ c.payload

/-- The text of a content: its bytes and their checksum, in base 58. -/
def Kind.Content.text {kind : Kind} (c : kind.Content) : List Char := encode (c.bytes ++ checksum c.bytes)

/-! ## 2. Openings and bytes -/

/-- The number that the bytes of a version denote. -/
def Version.number (v : Version) : Nat := ofDigits 256 (v.bytes.map UInt8.toNat)

/-- The number that the opening of a version denotes. -/
def Version.lead (v : Version) : Nat := ofDigits 58 (v.opening.toList.filterMap digitOf?)

/-- The numbers that begin with the bytes of the version begin with its opening in base 58. -/
structure Version.Leads (v : Version) (kind : Kind) : Prop where
  lead_pos : 0 < v.lead
  digits_lead : (digits 58 v.lead).map charOf = v.opening.toList
  head : ∃ first rest, v.bytes = first :: rest ∧ first ≠ 0
  lower : v.lead * 58 ^ kind.tailLength ≤ v.number * 256 ^ (kind.payloadSize + checksumSize)
  upper : (v.number + 1) * 256 ^ (kind.payloadSize + checksumSize) ≤
    (v.lead + 1) * 58 ^ kind.tailLength

/-- **The bytes of every version are chosen so that its opening comes out.** -/
theorem leads : ∀ {kind : Kind}, ∀ v ∈ kind.versions, v.Leads kind := by
  intro kind v hv
  cases kind with
  | address =>
    simp only [Kind.versions, List.mem_cons, List.not_mem_nil, or_false] at hv
    rcases hv with rfl | rfl | rfl | rfl | rfl | rfl | rfl <;>
      exact ⟨by decide, by decide, ⟨_, _, rfl, by decide⟩, by decide, by decide⟩
  | exprHash =>
    obtain rfl := List.mem_singleton.mp hv
    exact ⟨by decide, by decide, ⟨_, _, rfl, by decide⟩, by decide, by decide⟩
  | blockHash =>
    obtain rfl := List.mem_singleton.mp hv
    exact ⟨by decide, by decide, ⟨_, _, rfl, by decide⟩, by decide, by decide⟩

/-- The number of bytes that begin like a version begins with its opening. -/
theorem Version.Leads.quotient {v : Version} {kind : Kind} (h : v.Leads kind) {rest : List UInt8}
    (hrest : rest.length = kind.payloadSize + checksumSize) :
    ofDigits 256 ((v.bytes ++ rest).map UInt8.toNat) / 58 ^ kind.tailLength = v.lead := by
  have hnumber : ofDigits 256 ((v.bytes ++ rest).map UInt8.toNat) =
      v.number * 256 ^ (kind.payloadSize + checksumSize) + ofDigits 256 (rest.map UInt8.toNat) := by
    rw [List.map_append, Base58.ofDigits_append, List.length_map, hrest]
    rfl
  have hlt : ofDigits 256 (rest.map UInt8.toNat) < 256 ^ (kind.payloadSize + checksumSize) := by
    rw [← hrest, ← List.length_map (f := UInt8.toNat)]
    exact Base58.ofDigits_lt (by decide) Base58.toNat_lt_of_mem
  have hlower := h.lower
  have hupper := h.upper
  rw [Nat.add_mul, Nat.one_mul] at hupper
  rw [hnumber]
  exact Nat.div_eq_of_lt_le (by omega) (by omega)

/-- **Bytes that begin like a version are written with its opening, and as many digits after it as
    the kind asks for.** -/
theorem Version.Leads.encode_eq {v : Version} {kind : Kind} (h : v.Leads kind) {rest : List UInt8}
    (hrest : rest.length = kind.payloadSize + checksumSize) :
    ∃ tail, tail.length = kind.tailLength ∧ (∀ c ∈ tail, (digitOf? c).isSome = true) ∧
      encode (v.bytes ++ rest) = v.opening.toList ++ tail := by
  have hquotient := h.quotient hrest
  have hpos := h.lead_pos
  rw [← hquotient] at hpos
  obtain ⟨tail, hlength, htail, hdigits⟩ := Base58.digits_eq_append (by decide) hpos
  have hzeros : ((v.bytes ++ rest).map UInt8.toNat).takeWhile (· = 0) = [] := by
    obtain ⟨first, others, hbytes, hfirst⟩ := h.head
    have hne : first.toNat ≠ 0 := fun hzero => hfirst (UInt8.toNat_inj.mp hzero)
    rw [hbytes, List.cons_append, List.map_cons, List.takeWhile_cons_of_neg (by simpa using hne)]
  refine ⟨tail.map charOf, by rw [List.length_map, hlength], ?_, ?_⟩
  · intro c hc
    obtain ⟨d, hd, rfl⟩ := List.mem_map.mp hc
    rw [Base58.digitOf?_charOf d (htail d hd)]
    rfl
  · rw [Base58.encode_eq, Base58.recode, hzeros, List.nil_append, hdigits, hquotient,
      List.map_append, h.digits_lead]

/-! ## 3. The two tests -/

theorem fits_iff {v : Version} {tailLength : Nat} {text : List Char} :
    v.fits tailLength text = true ↔ ∃ tail, tail.length = tailLength ∧
      (∀ c ∈ tail, (digitOf? c).isSome = true) ∧ text = v.opening.toList ++ tail := by
  simp only [Version.fits, Bool.and_eq_true, List.isPrefixOf_iff_prefix, decide_eq_true_eq,
    List.all_eq_true, ← String.length_toList]
  constructor
  · rintro ⟨⟨⟨tail, rfl⟩, hlength⟩, htail⟩
    rw [List.drop_left] at hlength htail
    exact ⟨tail, hlength, htail, rfl⟩
  · rintro ⟨tail, hlength, htail, rfl⟩
    rw [List.drop_left]
    exact ⟨⟨List.prefix_append _ _, hlength⟩, htail⟩

theorem carries_iff {v : Version} {payloadSize : Nat} {bytes : List UInt8} :
    v.carries payloadSize bytes = true ↔
      ∃ payload, payload.length = payloadSize ∧ bytes = v.bytes ++ payload := by
  simp only [Version.carries, Bool.and_eq_true, List.isPrefixOf_iff_prefix, decide_eq_true_eq]
  constructor
  · rintro ⟨⟨payload, rfl⟩, hlength⟩
    rw [List.length_append] at hlength
    exact ⟨payload, by omega, rfl⟩
  · rintro ⟨payload, hlength, rfl⟩
    exact ⟨List.prefix_append _ _, by rw [List.length_append, hlength]⟩

section Contents

variable {kind : Kind}

/-- The text of a content decodes to its bytes. -/
theorem Kind.Content.decodeChecked_text (c : kind.Content) :
    Base58.decodeChecked c.text = some c.bytes := Base58.decodeChecked_eq_some_iff.mpr rfl

/-- The text of a content has the opening of its version. -/
theorem Kind.Content.fits_text (c : kind.Content) : c.version.fits kind.tailLength c.text = true := by
  have hrest : (c.payload ++ checksum c.bytes).length = kind.payloadSize + checksumSize := by
    rw [List.length_append, c.size, Base58.length_checksum]
  obtain ⟨tail, hlength, htail, htext⟩ := (leads c.version c.known).encode_eq hrest
  refine fits_iff.mpr ⟨tail, hlength, htail, ?_⟩
  rw [← htext, ← List.append_assoc]
  rfl

/-- The looks of an identifier never speak against its bytes. -/
theorem looksRight_text (c : kind.Content) : kind.looksRight c.text = true :=
  List.any_eq_true.mpr ⟨c.version, c.known, c.fits_text⟩

theorem checksRight_iff {text : List Char} :
    kind.checksRight text = true ↔ ∃ c : kind.Content, c.text = text := by
  unfold Kind.checksRight
  constructor
  · intro h
    split at h
    · rename_i bytes hbytes
      obtain ⟨v, hv, hcarries⟩ := List.any_eq_true.mp h
      obtain ⟨payload, hsize, rfl⟩ := carries_iff.mp hcarries
      exact ⟨⟨v, hv, payload, hsize⟩, (Base58.decodeChecked_eq_some_iff.mp hbytes).symm⟩
    · cases h
  · rintro ⟨c, rfl⟩
    rw [c.decodeChecked_text]
    exact List.any_eq_true.mpr ⟨c.version, c.known, carries_iff.mpr ⟨c.payload, c.size, rfl⟩⟩

theorem accepts_iff {text : List Char} :
    kind.accepts text = true ↔ ∃ c : kind.Content, c.text = text := by
  rw [Kind.accepts, Bool.and_eq_true, checksRight_iff]
  constructor
  · exact And.right
  · rintro ⟨c, rfl⟩
    exact ⟨looksRight_text c, c, rfl⟩

theorem parse_eq_ok_iff {text : String} {id : Identifier kind} :
    parse kind text = .ok id ↔ id.text = text := by
  unfold parse
  split
  · rename_i h
    cases id
    simp [eq_comm]
  · rename_i h
    simp only [reduceCtorEq, false_iff]
    rintro rfl
    exact h id.accepted

theorem exists_parse_iff {text : String} :
    (∃ id, parse kind text = .ok id) ↔ ∃ c : kind.Content, c.text = text.toList := by
  rw [← accepts_iff]
  constructor
  · rintro ⟨id, h⟩
    rw [← parse_eq_ok_iff.mp h]
    exact id.accepted
  · intro h
    exact ⟨⟨text, h⟩, parse_eq_ok_iff.mpr rfl⟩

end Contents

/-! ## 4. Different contents, different texts -/

deriving instance DecidableEq for Version

/-- No version's bytes begin another's. -/
theorem version_eq_of_bytes : ∀ {kind : Kind}, ∀ v ∈ kind.versions, ∀ w ∈ kind.versions,
    v.bytes <+: w.bytes → v = w := by
  intro kind
  cases kind <;> decide

/-- No version's opening begins another's. -/
theorem version_eq_of_opening : ∀ {kind : Kind}, ∀ v ∈ kind.versions, ∀ w ∈ kind.versions,
    v.opening.toList <+: w.opening.toList → v = w := by
  intro kind
  cases kind <;> decide

/-- The length of a text tells its kind. -/
theorem kind_eq_of_length : ∀ {kind kind' : Kind}, ∀ v ∈ kind.versions, ∀ w ∈ kind'.versions,
    v.opening.toList.length + kind.tailLength = w.opening.toList.length + kind'.tailLength →
    kind = kind' := by
  intro kind kind'
  cases kind <;> cases kind' <;> decide

/-- What begins like two of some things of which none begins another begins like one. -/
theorem eq_of_common {α : Type} {key : Version → List α} {kind : Kind}
    (hkey : ∀ v ∈ kind.versions, ∀ w ∈ kind.versions, key v <+: key w → v = w) {v w : Version}
    (hv : v ∈ kind.versions) (hw : w ∈ kind.versions) {all : List α} (hvall : key v <+: all)
    (hwall : key w <+: all) : v = w := by
  rcases List.prefix_or_prefix_of_prefix hvall hwall with h | h
  · exact hkey v hv w hw h
  · exact (hkey w hw v hv h).symm

theorem text_injective {kind : Kind} {c c' : kind.Content} (h : c.text = c'.text) : c = c' := by
  have hbytes : c.version.bytes ++ c.payload = c'.version.bytes ++ c'.payload :=
    Base58.encodeChecked_injective h
  have hversion : c.version = c'.version := by
    have hprefix : c'.version.bytes <+: c.version.bytes ++ c.payload := by
      rw [hbytes]
      exact List.prefix_append _ _
    exact eq_of_common version_eq_of_bytes c.known c'.known (List.prefix_append _ _) hprefix
  obtain ⟨v, _, payload, _⟩ := c
  obtain ⟨v', _, payload', _⟩ := c'
  obtain rfl : v = v' := hversion
  obtain rfl : payload = payload' := List.append_cancel_left hbytes
  rfl

theorem length_text {kind : Kind} (c : kind.Content) :
    c.text.length = c.version.opening.toList.length + kind.tailLength := by
  obtain ⟨tail, hlength, -, htext⟩ := fits_iff.mp c.fits_text
  rw [htext, List.length_append, hlength]

theorem kind_eq_of_text {kind kind' : Kind} {c : kind.Content} {c' : kind'.Content}
    (h : c.text = c'.text) : kind = kind' := by
  refine kind_eq_of_length c.version c.known c'.version c'.known ?_
  rw [← length_text, ← length_text, h]

/-! ## 5. Texts of identifiers -/

section Texts

variable {kind : Kind}

/-- An identifier is its text. -/
theorem text_inj {id id' : Identifier kind} : id.text = id'.text ↔ id = id' := by
  constructor
  · intro h
    cases id
    cases id'
    cases h
    rfl
  · exact congrArg Identifier.text

/-- Identifiers are written in digits of base 58. -/
theorem mem_alphabet_of_mem_text {id : Identifier kind} {c : Char} (h : c ∈ id.text.toList) :
    c ∈ Base58.alphabet := by
  obtain ⟨content, hcontent⟩ := accepts_iff.mp id.accepted
  rw [← hcontent] at h
  exact Base58.mem_alphabet_of_mem_encode h

theorem text_ne_empty (id : Identifier kind) : id.text ≠ "" := by
  intro h
  obtain ⟨content, hcontent⟩ := accepts_iff.mp id.accepted
  have hlength := length_text content
  have htail : 0 < kind.tailLength := by cases kind <;> decide
  rw [hcontent, h] at hlength
  have hempty : "".toList.length = 0 := rfl
  omega

end Texts

/-- **A text is an identifier of a kind if and only if it is the text of a version of that kind and a
    payload of its size; these are told by the text, and different ones have different texts. The looks
    of such a text are always right, and it is an identifier of no other kind.** -/
theorem parse_iff_content :
    (∀ (kind : Kind) (text : String), (∃ id, parse kind text = .ok id) ↔
      ∃! c : kind.Content, text.toList =
        encode (c.version.bytes ++ c.payload ++ checksum (c.version.bytes ++ c.payload))) ∧
    (∀ (kind : Kind) (c c' : kind.Content), c.text = c'.text → c = c') ∧
    (∀ (kind : Kind) (c : kind.Content), kind.looksRight c.text = true) ∧
    (∀ (kind kind' : Kind) (text : String), (∃ id, parse kind text = .ok id) →
      (∃ id, parse kind' text = .ok id) → kind = kind') := by
  refine ⟨fun kind text => ?_, fun _ _ _ => text_injective, fun _ => looksRight_text, ?_⟩
  · rw [exists_parse_iff]
    constructor
    · rintro ⟨c, hc⟩
      exact ⟨c, hc.symm, fun c' hc' => text_injective (hc'.symm.trans hc.symm)⟩
    · rintro ⟨c, hc, -⟩
      exact ⟨c, hc.symm⟩
  · intro kind kind' text h h'
    obtain ⟨c, hc⟩ := exists_parse_iff.mp h
    obtain ⟨c', hc'⟩ := exists_parse_iff.mp h'
    exact kind_eq_of_text (hc.trans hc'.symm)

/-- An originated contract's address: it is the text of one content, and no hash of a block. -/
theorem parse_iff_content_at_contract :
    let text := "KT1PWx2mnDueood7fEmfbBDKx1D9BAnnXitn"
    (∃! c : Kind.address.Content, text.toList =
      encode (c.version.bytes ++ c.payload ++ checksum (c.version.bytes ++ c.payload))) ∧
    ¬ ∃ id, parse .blockHash text = .ok id := by
  intro text
  have haccepted : Kind.address.accepts text.toList = true := by decide +kernel
  have hparse : ∃ id, parse .address text = .ok id := ⟨⟨text, haccepted⟩, parse_eq_ok_iff.mpr rfl⟩
  refine ⟨(parse_iff_content.1 .address text).mp hparse, fun hblock => ?_⟩
  exact absurd (parse_iff_content.2.2.2 .address .blockHash text hparse hblock) (by decide)

/-! ## 6. What the opening tells -/

theorem Kind.Content.bytes_prefix {kind : Kind} (c : kind.Content) : c.version.bytes <+: c.bytes :=
  List.prefix_append _ _

theorem Kind.Content.opening_prefix {kind : Kind} (c : kind.Content) :
    c.version.opening.toList <+: c.text := by
  obtain ⟨tail, -, -, htext⟩ := fits_iff.mp c.fits_text
  rw [htext]
  exact List.prefix_append _ _

/-- The text of a content begins like a version of its kind if and only if its bytes do. -/
theorem opening_text_iff {kind : Kind} (c : kind.Content) {v : Version} (hv : v ∈ kind.versions) :
    v.opening.toList <+: c.text ↔ v.bytes <+: c.bytes := by
  -- whichever of the two begins like `v`, the version of the content is `v`
  constructor
  · intro h
    rw [eq_of_common version_eq_of_opening hv c.known h c.opening_prefix]
    exact c.bytes_prefix
  · intro h
    rw [eq_of_common version_eq_of_bytes hv c.known h c.bytes_prefix]
    exact c.opening_prefix

/-- **The text of an address begins like a version if and only if its bytes do, and they do begin
    like one. So an address that begins with `KT1` has the bytes of an originated contract, and no
    other has them.** -/
theorem opening_iff_bytes (address : Address) :
    ∃ bytes, Base58.decodeChecked address.text.toList = some bytes ∧
      (∃ v ∈ Kind.address.versions,
        v.opening.toList <+: address.text.toList ∧ v.bytes <+: bytes) ∧
      (∀ v ∈ Kind.address.versions,
        v.opening.toList <+: address.text.toList ↔ v.bytes <+: bytes) ∧
      (address.isContract = true ↔ [2, 90, 121] <+: bytes) := by
  obtain ⟨c, hc⟩ := accepts_iff.mp address.accepted
  have hiff : ∀ v ∈ Kind.address.versions,
      v.opening.toList <+: address.text.toList ↔ v.bytes <+: c.bytes := by
    rw [← hc]
    exact fun v hv => opening_text_iff c hv
  refine ⟨c.bytes, ?_, ⟨c.version, c.known, ?_, c.bytes_prefix⟩, hiff, ?_⟩
  · rw [← hc, c.decodeChecked_text]
  · rw [← hc]
    exact c.opening_prefix
  · rw [Address.isContract, List.isPrefixOf_iff_prefix]
    exact hiff ⟨"KT1", [2, 90, 121]⟩ (by decide)

end Identifier

end ContractQuery
