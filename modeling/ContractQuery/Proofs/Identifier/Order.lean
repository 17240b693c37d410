import ContractQuery.Proofs.Identifier
import ContractQuery.Proofs.NameMap
import ContractQuery.Proofs.Text.ByteOrder
import Mathlib.Data.List.Basic

/-!
# The order of identifiers is that of their payloads

Identifiers are compared by their texts, though a text is the number of a payload and of a checksum
behind it, in another base. Of identifiers of one version the order is the same all the way:

* `Base58.alphabet_ascends`: the digits ascend as characters, so texts of the same length compare as
  their digits do (`Base58.map_charOf_lt_iff`);
* **`Base58.ofDigits_lt_iff`**: digits of the same length compare as the numbers that they denote. This
  is used in base 58 and, the other way, in base 256;
* `Kind.Content.text_lt_iff`: what comes before a payload is the same in both, and what comes behind it
  counts only where the payloads are the same; then the checksums are too.
* **`before_iff_payload_lt`**: the order and the equality of identifiers, and with them what comes of
  sorting identifiers, of dropping repeated ones and of a map under their texts.
-/

namespace ContractQuery

/-! ## 1. Lists in order -/

section Lists

variable {α β : Type}

/-- Behind heads of the same length the rest counts only where the heads are the same. -/
theorem append_lt_append_iff [LT α] : ∀ {xs ys us vs : List α}, xs.length = ys.length →
    (xs ++ us < ys ++ vs ↔ xs < ys ∨ xs = ys ∧ us < vs)
  | [], [], us, vs, _ => by simp
  | x :: xs, y :: ys, us, vs, h => by
    have hrest : xs ++ us < ys ++ vs ↔ xs < ys ∨ xs = ys ∧ us < vs :=
      append_lt_append_iff (Nat.succ.inj h)
    rw [List.cons_append, List.cons_append, List.cons_lt_cons_iff, List.cons_lt_cons_iff, hrest,
      List.cons.injEq]
    tauto

/-- What keeps order and equality of the members keeps the order of the lists. -/
theorem map_lt_map_iff [LT α] [LT β] {f : α → β} : ∀ {xs ys : List α},
    (∀ x ∈ xs, ∀ y ∈ ys, (f x < f y ↔ x < y) ∧ (f x = f y ↔ x = y)) →
    (xs.map f < ys.map f ↔ xs < ys)
  | [], [], _ => by simp
  | [], y :: ys, _ => by simp
  | x :: xs, [], _ => by simp
  | x :: xs, y :: ys, h => by
    obtain ⟨hlt, heq⟩ := h x List.mem_cons_self y List.mem_cons_self
    have hrest : xs.map f < ys.map f ↔ xs < ys := map_lt_map_iff fun x' hx' y' hy' =>
      h x' (List.mem_cons_of_mem _ hx') y' (List.mem_cons_of_mem _ hy')
    rw [List.map_cons, List.map_cons, List.cons_lt_cons_iff, List.cons_lt_cons_iff, hlt, heq, hrest]

/-- What tells the members apart does so before repeats are dropped and after. -/
theorem map_eraseDups [BEq α] [LawfulBEq α] [BEq β] [LawfulBEq β] {f : α → β} : ∀ {xs : List α},
    (∀ a ∈ xs, ∀ b ∈ xs, f a = f b → a = b) → xs.eraseDups.map f = (xs.map f).eraseDups
  | [], _ => rfl
  | a :: rest, h => by
    have hothers : ((rest.map f).filter fun b => !b == f a) = (rest.filter fun b => !b == a).map f := by
      rw [List.filter_map]
      refine congrArg _ (List.filter_congr fun b hb => congrArg not ?_)
      rw [Bool.eq_iff_iff, beq_iff_eq, beq_iff_eq]
      exact ⟨h b (List.mem_cons_of_mem _ hb) a List.mem_cons_self, congrArg f⟩
    have hrest : (rest.filter fun b => !b == a).eraseDups.map f =
        ((rest.filter fun b => !b == a).map f).eraseDups := map_eraseDups fun b hb c hc =>
      h b (List.mem_cons_of_mem _ (List.mem_of_mem_filter hb)) c
        (List.mem_cons_of_mem _ (List.mem_of_mem_filter hc))
    rw [List.eraseDups_cons, List.map_cons, List.map_cons, List.eraseDups_cons, hothers, hrest]
termination_by xs => xs.length
decreasing_by exact Nat.lt_succ_of_le (List.length_filter_le _ _)

/-- Without repeats the members are related as before, and different. -/
theorem pairwise_eraseDups [BEq α] [LawfulBEq α] {r : α → α → Prop} : ∀ {xs : List α}, xs.Pairwise r →
    xs.eraseDups.Pairwise fun a b => r a b ∧ a ≠ b
  | [], _ => by simp
  | a :: rest, h => by
    obtain ⟨hfirst, hrest⟩ := List.pairwise_cons.mp h
    rw [List.eraseDups_cons]
    refine List.pairwise_cons.mpr ⟨fun b hb => ?_, pairwise_eraseDups (hrest.filter _)⟩
    obtain ⟨hb, hne⟩ := List.mem_filter.mp (List.mem_eraseDups.mp hb)
    exact ⟨hfirst b hb, fun heq => by simp [heq] at hne⟩
termination_by xs => xs.length
decreasing_by exact Nat.lt_succ_of_le (List.length_filter_le _ _)

end Lists

namespace Base58

/-! ## 2. Numbers in order -/

theorem ofDigits_cons (base d : Nat) (ds : List Nat) :
    ofDigits base (d :: ds) = d * base ^ ds.length + ofDigits base ds := by
  have happend := ofDigits_append base [d] ds
  have hfirst : ofDigits base [d] = d := by simp [ofDigits]
  rwa [hfirst] at happend

/-- The multiple of a number decides, and what is left of it where the multiples are the same. -/
theorem mul_add_lt_iff {b x y r s : Nat} (hr : r < b) (hs : s < b) :
    x * b + r < y * b + s ↔ x < y ∨ x = y ∧ r < s := by
  rcases Nat.lt_trichotomy x y with h | h | h
  · have hstep : (x + 1) * b ≤ y * b := Nat.mul_le_mul_right b h
    rw [Nat.add_mul, Nat.one_mul] at hstep
    omega
  · rw [h]
    omega
  · have hstep : (y + 1) * b ≤ x * b := Nat.mul_le_mul_right b h
    rw [Nat.add_mul, Nat.one_mul] at hstep
    omega

/-- **Digits of the same length compare as the numbers that they denote.** -/
theorem ofDigits_lt_iff {base : Nat} (hbase : 1 < base) : ∀ {xs ys : List Nat},
    xs.length = ys.length → (∀ d ∈ xs, d < base) → (∀ d ∈ ys, d < base) →
    (ofDigits base xs < ofDigits base ys ↔ xs < ys)
  | [], [], _, _, _ => by simp
  | x :: xs, y :: ys, hlength, hxs, hys => by
    obtain ⟨-, hxs⟩ := List.forall_mem_cons.mp hxs
    obtain ⟨-, hys⟩ := List.forall_mem_cons.mp hys
    have hsame : xs.length = ys.length := Nat.succ.inj hlength
    have hx := ofDigits_lt hbase hxs
    have hy := ofDigits_lt hbase hys
    rw [← hsame] at hy
    rw [ofDigits_cons, ofDigits_cons, ← hsame, mul_add_lt_iff hx hy, List.cons_lt_cons_iff,
      ofDigits_lt_iff hbase hsame hxs hys]

/-! ## 3. Texts in order -/

/-- The digits ascend as characters do. -/
theorem alphabet_ascends : alphabet.Pairwise (· < ·) := by decide +kernel

theorem charOf_lt_charOf {d e : Nat} (h : d < e) (he : e < 58) : charOf d < charOf e := by
  have hd : d < alphabet.length := Nat.lt_trans h he
  rw [charOf, charOf, List.getD_eq_getElem _ _ hd, List.getD_eq_getElem _ _ he]
  exact List.pairwise_iff_getElem.mp alphabet_ascends d e hd he h

theorem charOf_compare {d e : Nat} (hd : d < 58) (he : e < 58) :
    (charOf d < charOf e ↔ d < e) ∧ (charOf d = charOf e ↔ d = e) := by
  rcases Nat.lt_trichotomy d e with h | h | h
  · have hlt := charOf_lt_charOf h he
    exact ⟨⟨fun _ => h, fun _ => hlt⟩, ⟨fun heq => absurd heq (Char.ne_of_lt hlt), fun heq => by omega⟩⟩
  · rw [h]
    simp
  · have hlt := charOf_lt_charOf h hd
    refine ⟨⟨fun hlt' => absurd hlt' (Char.lt_asymm hlt), fun hlt' => by omega⟩, ?_⟩
    exact ⟨fun heq => absurd heq.symm (Char.ne_of_lt hlt), fun heq => by omega⟩

theorem map_charOf_lt_iff {ds es : List Nat} (hds : ∀ d ∈ ds, d < 58) (hes : ∀ e ∈ es, e < 58) :
    ds.map charOf < es.map charOf ↔ ds < es :=
  map_lt_map_iff fun d hd e he => charOf_compare (hds d hd) (hes e he)

theorem map_toNat_lt_iff {xs ys : List UInt8} : xs.map UInt8.toNat < ys.map UInt8.toNat ↔ xs < ys :=
  map_lt_map_iff fun _ _ _ _ => ⟨UInt8.lt_iff_toNat_lt.symm, UInt8.toNat_inj⟩

theorem recode_of_noZeroFirst {a b : Nat} {ds : List Nat} (h : NoZeroFirst ds) :
    recode a b ds = digits b (ofDigits a ds) := by
  have hzeros : ds.takeWhile (· = 0) = [] := takeWhile_append_of_noZeroFirst h 0
  rw [recode, hzeros, List.nil_append]

/-- **Bytes without a zero in front compare as their texts, if both are of the same length.** -/
theorem encode_lt_encode_iff {xs ys : List UInt8} (hxs : NoZeroFirst (xs.map UInt8.toNat))
    (hys : NoZeroFirst (ys.map UInt8.toNat)) (hlength : xs.length = ys.length)
    (htexts : (encode xs).length = (encode ys).length) : encode xs < encode ys ↔ xs < ys := by
  rw [encode_eq, encode_eq, recode_of_noZeroFirst hxs, recode_of_noZeroFirst hys] at htexts ⊢
  rw [List.length_map, List.length_map] at htexts
  have hbase : 1 < 58 := by decide
  have hbytes : (xs.map UInt8.toNat).length = (ys.map UInt8.toNat).length := by
    rw [List.length_map, List.length_map, hlength]
  calc (digits 58 (ofDigits 256 (xs.map UInt8.toNat))).map charOf <
        (digits 58 (ofDigits 256 (ys.map UInt8.toNat))).map charOf
      ↔ digits 58 (ofDigits 256 (xs.map UInt8.toNat)) <
          digits 58 (ofDigits 256 (ys.map UInt8.toNat)) :=
        map_charOf_lt_iff (fun _ => digits_lt hbase) fun _ => digits_lt hbase
    _ ↔ ofDigits 256 (xs.map UInt8.toNat) < ofDigits 256 (ys.map UInt8.toNat) := by
        rw [← ofDigits_lt_iff hbase htexts (fun _ => digits_lt hbase) fun _ => digits_lt hbase,
          ofDigits_digits hbase, ofDigits_digits hbase]
    _ ↔ xs.map UInt8.toNat < ys.map UInt8.toNat :=
        ofDigits_lt_iff (by decide) hbytes toNat_lt_of_mem toNat_lt_of_mem
    _ ↔ xs < ys := map_toNat_lt_iff

end Base58

namespace Identifier

open Base58 (checksum encodeChecked)

variable {kind : Kind}

/-! ## 4. Contents in order -/

theorem Kind.Content.noZeroFirst (c : kind.Content) (rest : List UInt8) :
    Base58.NoZeroFirst ((c.bytes ++ rest).map UInt8.toNat) := by
  obtain ⟨first, others, hbytes, hfirst⟩ := (leads c.version c.known).head
  intro d tail h
  rw [Kind.Content.bytes, hbytes] at h
  obtain ⟨rfl, -⟩ := List.cons.inj h
  exact fun hzero => hfirst (UInt8.toNat_inj.mp hzero)

theorem Kind.Content.length_bytes (c : kind.Content) :
    c.bytes.length = c.version.bytes.length + kind.payloadSize := by
  rw [Kind.Content.bytes, List.length_append, c.size]

/-- **Contents of one version compare as their texts.** -/
theorem Kind.Content.text_lt_iff {c c' : kind.Content} (h : c.version = c'.version) :
    c.text < c'.text ↔ c.payload < c'.payload := by
  have hbytes : c.bytes.length = c'.bytes.length := by
    rw [c.length_bytes, c'.length_bytes, h]
  have hall : (c.bytes ++ checksum c.bytes).length = (c'.bytes ++ checksum c'.bytes).length := by
    rw [List.length_append, List.length_append, Base58.length_checksum, Base58.length_checksum, hbytes]
  have htexts : c.text.length = c'.text.length := by
    rw [length_text, length_text, h]
  have hpayloads : c.bytes < c'.bytes ↔ c.payload < c'.payload := by
    rw [Kind.Content.bytes, Kind.Content.bytes, h, append_lt_append_iff rfl]
    simp [List.lt_irrefl]
  unfold Kind.Content.text at htexts ⊢
  rw [Base58.encode_lt_encode_iff (c.noZeroFirst _) (c'.noZeroFirst _) hall htexts,
    append_lt_append_iff hbytes, hpayloads]
  -- the same bytes have the same checksum
  refine or_iff_left fun hsame => ?_
  rw [hsame.1] at hsame
  exact List.lt_irrefl _ hsame.2

/-! ## 5. Identifiers in order -/

/-- The bytes that an identifier stands for, without their checksum. -/
def bytes (id : Identifier kind) : List UInt8 := (Base58.decodeChecked id.text.toList).getD []

/-- The bytes of an identifier that are its version's. -/
def versionBytes (id : Identifier kind) : List UInt8 :=
  id.bytes.take (id.bytes.length - kind.payloadSize)

/-- The bytes of an identifier after those of its version. -/
def payload (id : Identifier kind) : List UInt8 := id.bytes.drop (id.bytes.length - kind.payloadSize)

/-- The parts of the text of a content are those of the content. -/
theorem parts_eq {id : Identifier kind} {c : kind.Content} (h : id.text.toList = c.text) :
    id.versionBytes = c.version.bytes ∧ id.payload = c.payload := by
  have hbytes : id.bytes = c.bytes := by
    rw [bytes, h, c.decodeChecked_text, Option.getD_some]
  have hfront : c.bytes.length - kind.payloadSize = c.version.bytes.length := by
    rw [c.length_bytes, Nat.add_sub_cancel]
  constructor
  · rw [versionBytes, hbytes, hfront, Kind.Content.bytes, List.take_left]
  · rw [payload, hbytes, hfront, Kind.Content.bytes, List.drop_left]

theorem exists_content (id : Identifier kind) : ∃ c : kind.Content, id.text.toList = c.text ∧
    id.versionBytes = c.version.bytes ∧ id.payload = c.payload := by
  obtain ⟨c, hc⟩ := accepts_iff.mp id.accepted
  exact ⟨c, hc.symm, parts_eq hc.symm⟩

/-- Identifiers whose first bytes are the same are the texts of contents of one version. -/
theorem exists_contents {a b : Identifier kind} (h : a.versionBytes = b.versionBytes) :
    ∃ c c' : kind.Content, c.version = c'.version ∧ a.text.toList = c.text ∧ a.payload = c.payload ∧
      b.text.toList = c'.text ∧ b.payload = c'.payload := by
  obtain ⟨c, htext, hversion, hpayload⟩ := a.exists_content
  obtain ⟨c', htext', hversion', hpayload'⟩ := b.exists_content
  rw [hversion, hversion'] at h
  refine ⟨c, c', ?_, htext, hpayload, htext', hpayload'⟩
  exact version_eq_of_bytes c.version c.known c'.version c'.known (h ▸ List.prefix_rfl)

theorem before_iff {a b : Identifier kind} : a.before b = true ↔ a.text < b.text := decide_eq_true_iff

theorem before_iff_of_version {a b : Identifier kind} (h : a.versionBytes = b.versionBytes) :
    a.before b = true ↔ a.payload < b.payload := by
  obtain ⟨c, c', hversion, htext, hpayload, htext', hpayload'⟩ := exists_contents h
  have hlists : a.text < b.text ↔ a.text.toList < b.text.toList := Iff.rfl
  rw [before_iff, hlists, htext, htext', hpayload, hpayload']
  exact Kind.Content.text_lt_iff hversion

theorem eq_iff_of_version {a b : Identifier kind} (h : a.versionBytes = b.versionBytes) :
    a = b ↔ a.payload = b.payload := by
  obtain ⟨c, c', hversion, htext, hpayload, htext', hpayload'⟩ := exists_contents h
  constructor
  · exact congrArg payload
  · intro hsame
    rw [← text_inj, ← String.toList_inj, htext, htext', Kind.Content.text, Kind.Content.text,
      Kind.Content.bytes, Kind.Content.bytes, hversion, ← hpayload, ← hpayload', hsame]

/-- Only addresses have more than one version. -/
theorem versionBytes_eq (h : kind ≠ .address) (a b : Identifier kind) :
    a.versionBytes = b.versionBytes := by
  obtain ⟨c, -, hversion, -⟩ := a.exists_content
  obtain ⟨c', -, hversion', -⟩ := b.exists_content
  have hone : ∀ v ∈ kind.versions, ∀ w ∈ kind.versions, v = w := by
    cases kind with
    | address => exact absurd rfl h
    | exprHash => decide
    | blockHash => decide
  rw [hversion, hversion', hone c.version c.known c'.version c'.known]

/-! ## 6. Identifiers sorted, without repeats, and as keys -/

/-- Identifiers of one version. -/
def OneVersion (ids : List (Identifier kind)) : Prop :=
  ∀ a ∈ ids, ∀ b ∈ ids, a.versionBytes = b.versionBytes

/-- Lists of bytes in order. -/
def sortBytes (all : List (List UInt8)) : List (List UInt8) := all.mergeSort fun xs ys => !decide (ys < xs)

/-- A map under the texts of identifiers. -/
def byText {α : Type} (entries : List (Identifier kind × α)) : NameMap α :=
  .ofMembers (entries.map fun e => (e.1.text, e.2))

theorem sort_payload {ids : List (Identifier kind)} (h : OneVersion ids) :
    (sort ids).map payload = sortBytes (ids.map payload) := by
  refine List.map_mergeSort fun a ha b hb => congrArg not ?_
  rw [Bool.eq_iff_iff, decide_eq_true_iff]
  exact before_iff_of_version (h b hb a ha)

theorem distinct_payload {ids : List (Identifier kind)} (h : OneVersion ids) :
    (distinct ids).map payload = (sortBytes (ids.map payload)).eraseDups := by
  rw [distinct, ← sort_payload h]
  refine map_eraseDups fun a ha b hb heq => ?_
  exact (eq_iff_of_version (h a (List.mem_mergeSort.mp ha) b (List.mem_mergeSort.mp hb))).mpr heq

theorem mem_distinct {ids : List (Identifier kind)} {id : Identifier kind} :
    id ∈ distinct ids ↔ id ∈ ids := by
  rw [distinct, List.mem_eraseDups, sort, List.mem_mergeSort]

theorem distinct_ascends (ids : List (Identifier kind)) :
    (distinct ids).Pairwise fun a b => a.text < b.text := by
  have hsorted : (sort ids).Pairwise fun a b => (!b.before a) = true := by
    refine List.pairwise_mergeSort (fun a b c hab hbc => ?_) (fun a b => ?_) ids
    · rw [Bool.not_eq_true', ← Bool.not_eq_true, before_iff, String.not_lt] at hab hbc ⊢
      exact String.le_trans hab hbc
    · rw [Bool.or_eq_true, Bool.not_eq_true', Bool.not_eq_true', ← Bool.not_eq_true, ← Bool.not_eq_true,
        before_iff, before_iff, String.not_lt, String.not_lt]
      exact String.le_total a.text b.text
  have hdistinct := pairwise_eraseDups hsorted
  refine hdistinct.imp fun {a b} ⟨hle, hne⟩ => ?_
  rw [Bool.not_eq_true', ← Bool.not_eq_true, before_iff] at hle
  exact NameMap.lt_of_not_lt_of_ne hle fun heq => hne (text_inj.mp heq).symm

theorem distinct_payload_ascends {ids : List (Identifier kind)} (h : OneVersion ids) :
    ((distinct ids).map payload).Pairwise (· < ·) := by
  refine List.pairwise_map.mpr ((distinct_ascends ids).imp_of_mem fun {a b} ha hb hlt => ?_)
  exact (before_iff_of_version (h a (mem_distinct.mp ha) b (mem_distinct.mp hb))).mp (before_iff.mpr hlt)

section Keys

variable {α : Type} {entries : List (Identifier kind × α)}

/-- The names of a map under texts are those of its keys in order. -/
theorem names_byText : (byText entries).names = (distinct (entries.map Prod.fst)).map text := by
  have hascends : ((distinct (entries.map Prod.fst)).map text).Pairwise (· < ·) :=
    List.pairwise_map.mpr (distinct_ascends _)
  have hnodup : ((distinct (entries.map Prod.fst)).map text).Nodup := by
    show List.Pairwise (· ≠ ·) _
    refine hascends.imp fun {a b} hlt heq => ?_
    rw [heq] at hlt
    exact String.lt_irrefl b hlt
  have hmem : ∀ name, name ∈ (byText entries).names ↔
      name ∈ (distinct (entries.map Prod.fst)).map text := by
    intro name
    rw [byText, NameMap.mem_names_ofMembers_iff, List.map_map, List.mem_map, List.mem_map]
    simp only [mem_distinct, List.mem_map, exists_exists_and_eq_and, Function.comp_apply]
  refine List.Perm.eq_of_pairwise (fun a b _ _ hab hba => absurd hba (String.lt_asymm hab))
    (byText entries).names_ascending hascends ?_
  exact (List.perm_ext_iff_of_nodup (byText entries).names_nodup hnodup).mpr hmem

/-- A map under texts is a map under payloads. -/
theorem get?_byText {id : Identifier kind} (h : ∀ e ∈ entries, e.1.versionBytes = id.versionBytes) :
    (byText entries).get? id.text =
      ((entries.filter fun e => e.1.payload = id.payload).map Prod.snd).getLast? := by
  have hsame : ∀ e ∈ entries, decide (e.1.text = id.text) = decide (e.1.payload = id.payload) :=
    fun e he => decide_eq_decide.mpr (text_inj.trans (eq_iff_of_version (h e he)))
  rw [byText, NameMap.get?_ofMembers, NameMap.valuesOf, List.filter_map, List.map_map]
  exact congrArg (fun found => (found.map Prod.snd).getLast?) (List.filter_congr hsame)

end Keys

/-- **An identifier that was read from a text is the text of its version and its payload with their
    checksum. Of identifiers of one version, as all hashes are, one comes before another if and only if
    its payload does byte by byte, and they are the same if and only if their payloads are; this is also
    the order of the bytes of their texts. So they are sorted, and repeats are dropped, as their payloads
    would be, and a map under their texts holds what one under their payloads would hold, in the same
    order.** -/
theorem before_iff_payload_lt :
    (∀ {kind : Kind} {text : String} {id : Identifier kind}, parse kind text = .ok id →
      (∃ v ∈ kind.versions, v.bytes = id.versionBytes) ∧ id.payload.length = kind.payloadSize ∧
        text.toList = encodeChecked (id.versionBytes ++ id.payload)) ∧
    (∀ {kind : Kind}, kind ≠ .address → ∀ a b : Identifier kind, a.versionBytes = b.versionBytes) ∧
    (∀ {kind : Kind} (a b : Identifier kind),
      a.before b = true ↔ Text.bytes a.text < Text.bytes b.text) ∧
    (∀ {kind : Kind} {a b : Identifier kind}, a.versionBytes = b.versionBytes →
      (a.before b = true ↔ a.payload < b.payload) ∧ (a = b ↔ a.payload = b.payload)) ∧
    (∀ {kind : Kind} {ids : List (Identifier kind)}, OneVersion ids →
      (sort ids).map payload = sortBytes (ids.map payload) ∧
      (distinct ids).map payload = (sortBytes (ids.map payload)).eraseDups ∧
      ((distinct ids).map payload).Pairwise (· < ·)) ∧
    (∀ {kind : Kind} {α : Type} (entries : List (Identifier kind × α)),
      (byText entries).names = (distinct (entries.map Prod.fst)).map text ∧
      ∀ {id : Identifier kind}, (∀ e ∈ entries, e.1.versionBytes = id.versionBytes) →
        (byText entries).get? id.text =
          ((entries.filter fun e => e.1.payload = id.payload).map Prod.snd).getLast?) := by
  refine ⟨fun {kind text id} h => ?_, versionBytes_eq, fun a b => ?_,
    fun h => ⟨before_iff_of_version h, eq_iff_of_version h⟩,
    fun h => ⟨sort_payload h, distinct_payload h, distinct_payload_ascends h⟩,
    fun entries => ⟨names_byText, get?_byText⟩⟩
  · obtain ⟨c, htext, hversion, hpayload⟩ := id.exists_content
    rw [← parse_eq_ok_iff.mp h, hversion, hpayload]
    exact ⟨⟨c.version, c.known, rfl⟩, c.size, htext⟩
  · rw [before_iff, Text.lt_iff_bytes_lt]

/-- Two contracts whose payloads differ in the last two bytes, where one carries into the other; a map
    that has the first of them twice. -/
theorem before_iff_payload_lt_at_carry :
    ∃ a b : Address, parse .address "KT18amZmM5W7qDWVt2pH6uj7sCEd4FKv6KoK" = .ok a ∧
      parse .address "KT18amZmM5W7qDWVt2pH6uj7sCEd4FTQzHLh" = .ok b ∧
      a.versionBytes = b.versionBytes ∧
      a.payload = List.replicate 18 0 ++ [0, 255] ∧ b.payload = List.replicate 18 0 ++ [1, 0] ∧
      a.before b = true ∧ a ≠ b ∧ ((distinct [b, a, b]).map payload).Pairwise (· < ·) ∧
      (byText [(a, 1), (b, 2), (a, 3)]).get? a.text = some 3 := by
  let c : Kind.address.Content :=
    ⟨⟨"KT1", [2, 90, 121]⟩, by decide, List.replicate 18 0 ++ [0, 255], rfl⟩
  let c' : Kind.address.Content :=
    ⟨⟨"KT1", [2, 90, 121]⟩, by decide, List.replicate 18 0 ++ [1, 0], rfl⟩
  have htext : c.text = "KT18amZmM5W7qDWVt2pH6uj7sCEd4FKv6KoK".toList := by decide +kernel
  have htext' : c'.text = "KT18amZmM5W7qDWVt2pH6uj7sCEd4FTQzHLh".toList := by decide +kernel
  let a : Address := ⟨_, accepts_iff.mpr ⟨c, htext⟩⟩
  let b : Address := ⟨_, accepts_iff.mpr ⟨c', htext'⟩⟩
  obtain ⟨hversion, hpayload⟩ := @parts_eq _ a c htext.symm
  obtain ⟨hversion', hpayload'⟩ := @parts_eq _ b c' htext'.symm
  have hsame : a.versionBytes = b.versionBytes := hversion.trans hversion'.symm
  have hone : OneVersion [b, a, b] := by simp [OneVersion, hsame]
  have hne : b.payload ≠ a.payload := by
    rw [hpayload, hpayload']
    decide
  obtain ⟨hbefore, heq⟩ := before_iff_payload_lt.2.2.2.1 hsame
  refine ⟨a, b, parse_eq_ok_iff.mpr rfl, parse_eq_ok_iff.mpr rfl, hsame, hpayload, hpayload', ?_,
    fun h => hne.symm (heq.mp h), (before_iff_payload_lt.2.2.2.2.1 hone).2.2, ?_⟩
  · rw [hbefore, hpayload, hpayload']
    decide
  · rw [(before_iff_payload_lt.2.2.2.2.2 [(a, 1), (b, 2), (a, 3)]).2 (by simp [hsame])]
    simp [hne]

end Identifier

end ContractQuery
