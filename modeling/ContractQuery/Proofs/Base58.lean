import ContractQuery.Base58
import Mathlib.Data.List.GetD
import Mathlib.Data.List.TakeWhile
import Mathlib.Data.Nat.Digits.Lemmas

/-!
# Bytes and text in base 58 determine each other

* `Base58.digits` and `Base58.ofDigits` are the digits of a number and the number of digits, the most
  significant first; `digits_ofDigits` and `ofDigits_digits` say how far they undo each other.
* Both directions of the codec are one function between two bases, `recode`: zeros in front stay, what
  follows is read as a number and written again. **`recode_recode`**: recoding back undoes it.
* **`decode_eq_some_iff`**, **`decodeChecked_eq_some_iff`**: a text is decoded to some bytes if and
  only if it is the text of these bytes, without a checksum and with one.
* `digits_eq_append`: the digits of a number begin with those of its quotient by a power of the base.
-/

namespace ContractQuery

namespace Base58

/-! ## 1. Numbers and digits -/

/-- The digits do not begin with a zero. -/
def NoZeroFirst (ds : List Nat) : Prop := ∀ d rest, ds = d :: rest → d ≠ 0

section Digits

variable {base : Nat} (hbase : 1 < base)

theorem ofDigits_eq (base : Nat) (ds : List Nat) : ofDigits base ds = Nat.ofDigits base ds.reverse := by
  rw [Nat.ofDigits_eq_foldr, List.foldr_reverse]
  simp only [ofDigits, Nat.cast_id, Nat.add_comm, Nat.mul_comm]

theorem ofDigits_append (base : Nat) (xs ys : List Nat) :
    ofDigits base (xs ++ ys) = ofDigits base xs * base ^ ys.length + ofDigits base ys := by
  rw [ofDigits_eq, ofDigits_eq, ofDigits_eq, List.reverse_append, Nat.ofDigits_append,
    List.length_reverse, Nat.add_comm, Nat.mul_comm]

theorem ofDigits_replicate_zero (base k : Nat) : ofDigits base (List.replicate k 0) = 0 := by
  rw [ofDigits_eq, List.reverse_replicate, Nat.ofDigits_replicate_zero]

include hbase

theorem ofDigits_lt {ds : List Nat} (h : ∀ d ∈ ds, d < base) : ofDigits base ds < base ^ ds.length := by
  rw [ofDigits_eq, ← List.length_reverse]
  exact Nat.ofDigits_lt_base_pow_length hbase fun d hd => h d (List.mem_reverse.mp hd)

/-- What fuel does not cut short. -/
theorem digitsOnto_eq : ∀ {fuel n : Nat} (done : List Nat), n < 2 ^ fuel →
    digitsOnto base fuel n done = (Nat.digits base n).reverse ++ done := by
  intro fuel
  induction fuel with
  | zero =>
    intro n done hn
    obtain rfl : n = 0 := by omega
    rw [Nat.digits_zero]
    rfl
  | succ fuel ih =>
    intro n done hn
    rw [digitsOnto]
    split
    · rename_i hzero
      rw [hzero, Nat.digits_zero]
      rfl
    · rename_i hpos
      -- one division halves the number at least, and that is what the fuel was counted for
      have hquot : n / base < 2 ^ fuel := by
        rw [Nat.div_lt_iff_lt_mul (by omega)]
        calc n < 2 ^ fuel * 2 := by rw [← Nat.pow_succ]; exact hn
          _ ≤ 2 ^ fuel * base := Nat.mul_le_mul_left _ hbase
      rw [ih _ hquot, Nat.digits_def' hbase (Nat.pos_of_ne_zero hpos), List.reverse_cons,
        List.append_assoc]
      rfl

theorem digits_eq (n : Nat) : digits base n = (Nat.digits base n).reverse := by
  rw [digits, digitsOnto_eq hbase [] Nat.lt_log2_self, List.append_nil]

theorem digits_lt {n d : Nat} (h : d ∈ digits base n) : d < base := by
  rw [digits_eq hbase, List.mem_reverse] at h
  exact Nat.digits_lt_base hbase h

theorem noZeroFirst_digits (n : Nat) : NoZeroFirst (digits base n) := by
  intro d rest h
  rw [digits_eq hbase] at h
  have hn : n ≠ 0 := by
    rintro rfl
    simp at h
  have hdigits : Nat.digits base n = rest.reverse ++ [d] := by
    rw [← List.reverse_cons, ← h, List.reverse_reverse]
  have hlast := Nat.getLast_digit_ne_zero base hn
  simpa only [hdigits, List.getLast_append_singleton] using hlast

theorem ofDigits_digits (n : Nat) : ofDigits base (digits base n) = n := by
  rw [ofDigits_eq, digits_eq hbase, List.reverse_reverse, Nat.ofDigits_digits]

theorem digits_ofDigits {ds : List Nat} (h : ∀ d ∈ ds, d < base) (hfirst : NoZeroFirst ds) :
    digits base (ofDigits base ds) = ds := by
  rw [ofDigits_eq, digits_eq hbase, Nat.digits_ofDigits base hbase]
  · exact List.reverse_reverse ds
  · exact fun d hd => h d (List.mem_reverse.mp hd)
  · intro hne
    rw [List.getLast_reverse]
    cases ds with
    | nil => exact absurd rfl hne
    | cons d rest => exact hfirst d rest rfl

/-- The digits of a number that is not zero are those of its quotient, and the remainder. -/
theorem digits_div {n : Nat} (hn : 0 < n) : digits base n = digits base (n / base) ++ [n % base] := by
  rw [digits_eq hbase, digits_eq hbase, Nat.digits_def' hbase hn, List.reverse_cons]

/-- The digits of a number begin with those of its quotient by a power of the base. -/
theorem digits_eq_append {n : Nat} : ∀ {t : Nat}, 0 < n / base ^ t →
    ∃ tail, tail.length = t ∧ (∀ d ∈ tail, d < base) ∧
      digits base n = digits base (n / base ^ t) ++ tail := by
  intro t
  induction t with
  | zero => exact fun _ => ⟨[], rfl, by simp, by simp⟩
  | succ t ih =>
    intro h
    have hquot : n / base ^ t / base = n / base ^ (t + 1) := by
      rw [Nat.div_div_eq_div_mul, ← Nat.pow_succ]
    have hpos : 0 < n / base ^ t := by
      rw [← hquot] at h
      exact Nat.pos_of_div_pos h
    obtain ⟨tail, hlength, htail, hdigits⟩ := ih hpos
    refine ⟨(n / base ^ t) % base :: tail, by rw [List.length_cons, hlength], ?_, ?_⟩
    · exact List.forall_mem_cons.mpr ⟨Nat.mod_lt _ (by omega), htail⟩
    · rw [hdigits, digits_div hbase hpos, hquot, List.append_assoc]
      rfl

end Digits

/-! ## 2. From one base to another -/

/-- Digits to base `a` written to base `b`: the zeros in front stay, what follows is a number. -/
def recode (a b : Nat) (ds : List Nat) : List Nat :=
  ds.takeWhile (· = 0) ++ digits b (ofDigits a ds)

theorem takeWhile_zero_eq (ds : List Nat) :
    ds.takeWhile (· = 0) = List.replicate (ds.takeWhile (· = 0)).length 0 := by
  rw [List.eq_replicate_iff]
  refine ⟨rfl, fun d hd => ?_⟩
  simpa using List.mem_takeWhile_imp hd

theorem noZeroFirst_dropWhile (ds : List Nat) : NoZeroFirst (ds.dropWhile (· = 0)) := by
  intro d rest h hd
  have hhead := List.head?_dropWhile_not (fun d => decide (d = 0)) ds
  rw [h] at hhead
  simp [hd] at hhead

/-- Zeros in front of the number do not change it. -/
theorem ofDigits_dropWhile (base : Nat) (ds : List Nat) :
    ofDigits base (ds.dropWhile (· = 0)) = ofDigits base ds := by
  conv => rhs; rw [← List.takeWhile_append_dropWhile (p := (· = 0)) (l := ds)]
  rw [takeWhile_zero_eq, ofDigits_append, ofDigits_replicate_zero, Nat.zero_mul, Nat.zero_add]

theorem takeWhile_append_of_noZeroFirst {ds : List Nat} (h : NoZeroFirst ds) (k : Nat) :
    (List.replicate k 0 ++ ds).takeWhile (· = 0) = List.replicate k 0 := by
  induction k with
  | zero =>
    cases ds with
    | nil => rfl
    | cons d rest => simp [h d rest rfl]
  | succ k ih => simp [List.replicate_succ, ih]

theorem recode_lt {a b : Nat} (hb : 1 < b) {ds : List Nat} {d : Nat} (h : d ∈ recode a b ds) :
    d < b := by
  rcases List.mem_append.mp h with h | h
  · have hd : d = 0 := by simpa using List.mem_takeWhile_imp h
    omega
  · exact digits_lt hb h

/-- **Recoding back gives the digits there were.** -/
theorem recode_recode {a b : Nat} (ha : 1 < a) (hb : 1 < b) {ds : List Nat} (h : ∀ d ∈ ds, d < a) :
    recode b a (recode a b ds) = ds := by
  have hfirst := noZeroFirst_digits hb (ofDigits a ds)
  have hnumber : ofDigits b (recode a b ds) = ofDigits a ds := by
    rw [recode, takeWhile_zero_eq, ofDigits_append, ofDigits_replicate_zero, Nat.zero_mul,
      Nat.zero_add, ofDigits_digits hb]
  -- the number is written without a zero in front, so no zeros are added to those that stay
  have hzeros : (recode a b ds).takeWhile (· = 0) = ds.takeWhile (· = 0) := by
    rw [recode, takeWhile_zero_eq ds, takeWhile_append_of_noZeroFirst hfirst]
  rw [recode, hzeros, hnumber, ← ofDigits_dropWhile,
    digits_ofDigits ha (fun d hd => h d (List.dropWhile_subset _ hd)) (noZeroFirst_dropWhile ds),
    List.takeWhile_append_dropWhile]

/-! ## 3. Characters and bytes -/

theorem digitOf?_charOf : ∀ d < 58, digitOf? (charOf d) = some d := by decide

theorem digitOf?_eq_some {c : Char} {d : Nat} (h : digitOf? c = some d) : d < 58 ∧ charOf d = c := by
  obtain ⟨hlt, hc, -⟩ := List.findIdx?_eq_some_iff_getElem.mp h
  refine ⟨hlt, ?_⟩
  rw [charOf, List.getD_eq_getElem _ _ hlt]
  simpa using hc

theorem charOf_mem_alphabet : ∀ d < 58, charOf d ∈ alphabet := by decide

theorem mapM_digitOf?_map_charOf {ds : List Nat} (h : ∀ d ∈ ds, d < 58) :
    (ds.map charOf).mapM digitOf? = some ds := by
  induction ds with
  | nil => rfl
  | cons d rest ih =>
    rw [List.forall_mem_cons] at h
    rw [List.map_cons, List.mapM_cons, digitOf?_charOf d h.1, ih h.2]
    rfl

theorem eq_map_charOf_of_mapM {text : List Char} {ds : List Nat} (h : text.mapM digitOf? = some ds) :
    (∀ d ∈ ds, d < 58) ∧ text = ds.map charOf := by
  induction text generalizing ds with
  | nil =>
    cases h
    simp
  | cons c rest ih =>
    rw [List.mapM_cons] at h
    obtain ⟨d, hd, h⟩ := Option.bind_eq_some_iff.mp h
    obtain ⟨ds', hds, h⟩ := Option.bind_eq_some_iff.mp h
    cases h
    obtain ⟨hlt, rfl⟩ := digitOf?_eq_some hd
    obtain ⟨hlts, rfl⟩ := ih hds
    exact ⟨List.forall_mem_cons.mpr ⟨hlt, hlts⟩, rfl⟩

theorem map_takeWhile_zero {α : Type} (f : Nat → α) (ds : List Nat) :
    (ds.takeWhile (· = 0)).map (fun _ => f 0) = (ds.takeWhile (· = 0)).map f :=
  List.map_congr_left fun d hd => by
    obtain rfl : d = 0 := by simpa using List.mem_takeWhile_imp hd
    rfl

theorem encode_eq (bytes : List UInt8) :
    encode bytes = (recode 256 58 (bytes.map UInt8.toNat)).map charOf := by
  rw [recode, List.map_append, ← map_takeWhile_zero]
  rfl

/-- Bytes are written in digits. -/
theorem mem_alphabet_of_mem_encode {bytes : List UInt8} {c : Char} (h : c ∈ encode bytes) :
    c ∈ alphabet := by
  rw [encode_eq] at h
  obtain ⟨d, hd, rfl⟩ := List.mem_map.mp h
  exact charOf_mem_alphabet d (recode_lt (by decide) hd)

theorem decode_eq (text : List Char) :
    decode text = (text.mapM digitOf?).map fun ds => (recode 58 256 ds).map UInt8.ofNat := by
  unfold decode recode
  cases text.mapM digitOf? with
  | none => rfl
  | some ds =>
    rw [Option.map_some, List.map_append, ← map_takeWhile_zero]
    rfl

theorem toNat_lt_of_mem {bytes : List UInt8} : ∀ d ∈ bytes.map UInt8.toNat, d < 256 := by
  intro d hd
  obtain ⟨byte, -, rfl⟩ := List.mem_map.mp hd
  exact byte.toNat_lt

theorem map_toNat_ofNat {ds : List Nat} (h : ∀ d ∈ ds, d < 256) :
    (ds.map UInt8.ofNat).map UInt8.toNat = ds := by
  rw [List.map_map]
  refine (List.map_congr_left fun d hd => ?_).trans (List.map_id ds)
  exact UInt8.toNat_ofNat_of_lt' (h d hd)

/-! ## 4. The codec -/

/-- **A text is decoded to some bytes if and only if it is the text of these bytes.** -/
theorem decode_eq_some_iff {text : List Char} {bytes : List UInt8} :
    decode text = some bytes ↔ text = encode bytes := by
  rw [decode_eq, encode_eq, Option.map_eq_some_iff]
  constructor
  · rintro ⟨ds, hds, rfl⟩
    obtain ⟨hlt, rfl⟩ := eq_map_charOf_of_mapM hds
    rw [map_toNat_ofNat fun d hd => recode_lt (by decide) hd,
      recode_recode (by decide) (by decide) hlt]
  · rintro rfl
    refine ⟨_, mapM_digitOf?_map_charOf fun d hd => recode_lt (by decide) hd, ?_⟩
    rw [recode_recode (by decide) (by decide) toNat_lt_of_mem, List.map_map]
    refine (List.map_congr_left fun byte _ => ?_).trans (List.map_id bytes)
    exact UInt8.ofNat_toNat

theorem length_digest (message : List UInt8) : (Sha256.digest message).length = 32 := rfl

theorem length_checksum (bytes : List UInt8) : (checksum bytes).length = checksumSize := by
  rw [checksum, List.length_take, length_digest]
  rfl

/-- **A text is decoded to checked bytes if and only if it is the text of these bytes and their
    checksum.** -/
theorem decodeChecked_eq_some_iff {text : List Char} {bytes : List UInt8} :
    decodeChecked text = some bytes ↔ text = encodeChecked bytes := by
  rw [decodeChecked, encodeChecked, ← decode_eq_some_iff]
  constructor
  · intro h
    obtain ⟨all, hall, h⟩ := Option.bind_eq_some_iff.mp h
    obtain ⟨hsum, h⟩ := Option.ite_none_right_eq_some.mp h
    cases h
    rw [← hsum.2, List.take_append_drop]
    exact hall
  · intro h
    have hlength : (bytes ++ checksum bytes).length - checksumSize = bytes.length := by
      rw [List.length_append, length_checksum, Nat.add_sub_cancel]
    rw [h]
    show (if _ then _ else _) = _
    rw [hlength, List.take_left, List.drop_left, if_pos]
    exact ⟨by rw [List.length_append, length_checksum]; exact Nat.le_add_left _ _, rfl⟩

theorem encodeChecked_injective {bytes bytes' : List UInt8}
    (h : encodeChecked bytes = encodeChecked bytes') : bytes = bytes' := by
  have hdecode : decodeChecked (encodeChecked bytes) = some bytes :=
    decodeChecked_eq_some_iff.mpr rfl
  rw [h, decodeChecked_eq_some_iff.mpr rfl] at hdecode
  exact (Option.some.inj hdecode).symm

end Base58

end ContractQuery
