import ContractQuery.Proofs.Body.Lists
import ContractQuery.Proofs.Body.Strings
import ContractQuery.Proofs.Identifier

/-!
# Identifiers in JSON

An identifier travels as a string, and a node that lists identifiers sends an array of strings. They are
understood as the texts would be that the strings mean, however the node writes these.

* `StringsText`: a text that is an array of strings, and what these mean.
* `identifierOf`: what becomes of one text, and **`decode_list_identifier`**: of all of them, one after the
  other.
* `stringsText_text`: identifiers that were written are such a text.
* `Called`: the names of the kinds. `message_of_parse_error`: what is said of a text that is none.
* **`decoded_iff_parsed`**: all of it together. A list is decoded if and only if each of its texts is an
  identifier, and else fails because of the first that is none.
-/

namespace ContractQuery

namespace Body

open Json (ElementText Items Literal Node Value literalOf means_literalOf)

variable {kind : Identifier.Kind} {text : String} {xs : List String}

/-! ## 1. Arrays of strings -/

/-- The text is an array of strings that mean these. -/
def StringsText (text : String) (xs : List String) : Prop :=
  ∃ literals : List Literal, ElementText text.toList (.array (.ofList (literals.map .string))) ∧
    List.Forall₂ Literal.Means literals xs

theorem outlineItems_strings (xs : List String) : Json.outlineItems (xs.map .string) =
    .ofList ((xs.map literalOf).map .string) := by
  induction xs with
  | nil => rfl
  | cons x rest ih =>
    show Items.item (.string (literalOf x)) (Json.outlineItems (rest.map .string)) = _
    rw [ih]
    rfl

/-- Strings that were printed mean what they were printed of. -/
theorem stringsText_text (xs : List String) : StringsText (Value.array (xs.map .string)).text xs := by
  have hfree : (Value.array (xs.map .string)).NumberFree := .array (by simpa using fun x _ => .string x)
  have hgrammar := elementText_text hfree
  rw [Value.outline, outlineItems_strings] at hgrammar
  refine ⟨xs.map literalOf, hgrammar, ?_⟩
  exact List.forall₂_map_left_iff.mpr (List.forall₂_same.mpr fun x _ => means_literalOf x)

/-! ## 2. Identifiers -/

/-- What becomes of a text that should be an identifier. -/
def identifierOf (kind : Identifier.Kind) (text : String) : Except Failure (Identifier kind) :=
  (Identifier.parse kind text).mapError fun e => .mismatch (.identifier e)

theorem identifierOf_eq_ok_iff {id : Identifier kind} :
    identifierOf kind text = .ok id ↔ Identifier.parse kind text = .ok id := by
  unfold identifierOf
  cases Identifier.parse kind text <;> simp [Except.mapError]

theorem identifierOf_eq_error_iff {failure : Failure} : identifierOf kind text = .error failure ↔
    ∃ e, Identifier.parse kind text = .error e ∧ failure = .mismatch (.identifier e) := by
  unfold identifierOf
  cases Identifier.parse kind text <;> simp [Except.mapError, eq_comm]

/-- An identifier is decoded from a string as it is from the text that the string means. -/
theorem identifier_of_means {room : Nat} {s : Literal} (h : s.Means text) :
    identifier kind room (.string s) = identifierOf kind text := by
  have hread : string room (.string s) = .ok text := readLiteral_of_means h
  rw [identifier, hread, identifierOf]
  dsimp only [bind, Except.bind]
  cases Identifier.parse kind text with
  | ok id => rfl
  | error e => rfl

theorem decode_identifier {x : String} (h : StringText text x) :
    decode (identifier kind) text = identifierOf kind x := by
  obtain ⟨s, hgrammar, hmeans⟩ := h
  rw [decode_of_elementText _ hgrammar]
  exact identifier_of_means hmeans

/-- **A list is decoded text by text.** -/
theorem decode_list_identifier (h : StringsText text xs) :
    decode (list (identifier kind)) text = xs.mapM (identifierOf kind) := by
  obtain ⟨literals, hgrammar, hmeans⟩ := h
  have hdeepest : deepest = 126 + 1 := rfl
  rw [decode_of_elementText _ hgrammar, hdeepest]
  show eachItem (identifier kind 126) (.ofList (literals.map .string)) = _
  rw [eachItem_ofList, List.mapM_map]
  exact mapM_eq_of_forall₂ (hmeans.imp fun s x hx => identifier_of_means hx)

/-- The error of a text that is no identifier has its kind and this text. -/
theorem eq_of_parse_error {x : String} {e : ParseError} (h : Identifier.parse kind x = .error e) :
    e = ⟨.identifier kind, x⟩ := by
  unfold Identifier.parse at h
  split at h
  · cases h
  · cases h
    rfl

/-- What identifiers of a kind are called. -/
inductive Called : Identifier.Kind → String → Prop
  | address : Called .address "address"
  | exprHash : Called .exprHash "expression hash"
  | blockHash : Called .blockHash "block hash"

/-- **The error says what the text should have been, and shows it in quotes; so does the mismatch.** -/
theorem message_of_parse_error {x name : String} {e : ParseError}
    (h : Identifier.parse kind x = .error e) (hname : Called kind name) :
    (Mismatch.identifier e).message = e.message ∧
      e.message = "invalid " ++ name ++ ": " ++ Quoted.render x := by
  rw [eq_of_parse_error h]
  cases hname <;> exact ⟨rfl, rfl⟩

/-! ## 3. Lists of identifiers -/

theorem exists_decode_list_identifier_iff (h : StringsText text xs) :
    (∃ ids, decode (list (identifier kind)) text = .ok ids) ↔
      ∀ x ∈ xs, ∃ id, Identifier.parse kind x = .ok id := by
  rw [decode_list_identifier h, exists_mapM_eq_ok_iff]
  simp only [identifierOf_eq_ok_iff]

theorem decode_list_identifier_eq_error_iff (h : StringsText text xs) {failure : Failure} :
    decode (list (identifier kind)) text = .error failure ↔
      ∃ before x after e, xs = before ++ x :: after ∧
        (∀ y ∈ before, ∃ id, Identifier.parse kind y = .ok id) ∧
        Identifier.parse kind x = .error e ∧ e.value = x ∧ failure = .mismatch (.identifier e) := by
  rw [decode_list_identifier h, mapM_eq_error_iff]
  simp only [identifierOf_eq_ok_iff, identifierOf_eq_error_iff]
  constructor
  · intro ⟨before, x, after, hxs, hbefore, e, he, hfailure⟩
    exact ⟨before, x, after, e, hxs, hbefore, he, by rw [eq_of_parse_error he], hfailure⟩
  · intro ⟨before, x, after, e, hxs, hbefore, he, _, hfailure⟩
    exact ⟨before, x, after, hxs, hbefore, e, he, hfailure⟩

/-- Identifiers that were written are read back. -/
theorem decode_toValue (ids : List (Identifier kind)) :
    decode (list (identifier kind)) (Value.array (ids.map Identifier.toValue)).text = .ok ids := by
  have htext : ids.map Identifier.toValue = (ids.map (·.text)).map .string := by
    rw [List.map_map]
    rfl
  rw [htext, decode_list_identifier (stringsText_text _), mapM_eq_ok_iff, List.forall₂_map_left_iff,
    List.forall₂_same]
  exact fun id _ => identifierOf_eq_ok_iff.mpr (Identifier.parse_eq_ok_iff.mpr rfl)

/-- **However an array of strings is written, it is decoded as a list of identifiers if and only if each
    of its texts is one, and then to these identifiers, in their order. Else it fails because of the first
    text that is none, with the error of this text and in its words: what it should have been, and the text
    itself. What is written of identifiers is decoded to them, and a single string as the text that it
    means.** -/
theorem decoded_iff_parsed (kind : Identifier.Kind) {text : String} {xs : List String}
    (h : StringsText text xs) :
    (∀ ids : List (Identifier kind), decode (list (identifier kind)) text = .ok ids ↔
      List.Forall₂ (fun x id => Identifier.parse kind x = .ok id) xs ids) ∧
    ((∃ ids, decode (list (identifier kind)) text = .ok ids) ↔
      ∀ x ∈ xs, ∃ id, Identifier.parse kind x = .ok id) ∧
    (∀ failure, decode (list (identifier kind)) text = .error failure ↔
      ∃ before x after e, xs = before ++ x :: after ∧
        (∀ y ∈ before, ∃ id, Identifier.parse kind y = .ok id) ∧
        Identifier.parse kind x = .error e ∧ e.value = x ∧ failure = .mismatch (.identifier e)) ∧
    (∀ {x name : String} {e : ParseError}, Identifier.parse kind x = .error e → Called kind name →
      (Mismatch.identifier e).message = e.message ∧
        e.message = "invalid " ++ name ++ ": " ++ Quoted.render x) ∧
    (∀ ids : List (Identifier kind),
      decode (list (identifier kind)) (Value.array (ids.map Identifier.toValue)).text = .ok ids) ∧
    ∀ {text x : String}, StringText text x → ∀ id : Identifier kind,
      decode (identifier kind) text = .ok id ↔ Identifier.parse kind x = .ok id := by
  refine ⟨fun ids => ?_, exists_decode_list_identifier_iff h,
    fun _ => decode_list_identifier_eq_error_iff h, message_of_parse_error, decode_toValue,
    fun hstring id => ?_⟩
  · rw [decode_list_identifier h, mapM_eq_ok_iff]
    simp only [identifierOf_eq_ok_iff]
  · rw [decode_identifier hstring, identifierOf_eq_ok_iff]

/-- Two texts that are no addresses, the first of them escaped and with blanks around it, and an address
    that is read back. -/
theorem decoded_iff_parsed_at_escape :
    let text := "[ \"\\u004b\"\n,\"KT1\"]"
    let id : Address := ⟨"KT1HgWYbZnUrLGQ8nFu4z7iLekWWtzSUc86B", by decide +kernel⟩
    StringsText text ["K", "KT1"] ∧
      decode (list (identifier .address)) text =
        .error (.mismatch (.identifier ⟨.identifier .address, "K"⟩)) ∧
      (Mismatch.identifier ⟨.identifier .address, "K"⟩).message = "invalid address: \"K\"" ∧
      decode (list (identifier .address)) (Value.array [id.toValue]).text = .ok [id] := by
  intro text id
  have hchars : text.toList = ['[', ' ', '"', '\\', 'u', '0', '0', '4', 'b', '"', '\n', ',', '"', 'K',
      'T', '1', '"', ']'] := by
    decide +kernel
  have hone : literalOf "K" = ⟨[.char 'K'], none⟩ := by decide +kernel
  have htwo : literalOf "KT1" = ⟨[.char 'K', .char 'T', .char '1'], none⟩ := by decide +kernel
  have h : StringsText text ["K", "KT1"] := by
    refine ⟨[literalOf "K", literalOf "KT1"], Json.elementText_iff.mpr ⟨?_, rfl, rfl, trivial⟩,
      .cons (means_literalOf _) (.cons (means_literalOf _) .nil)⟩
    rw [Json.Document.ofText, hchars, hone, htwo]
    rfl
  have hrefused : Identifier.parse .address "K" = .error ⟨.identifier .address, "K"⟩ := by
    unfold Identifier.parse
    rw [dif_neg (by decide +kernel)]
  obtain ⟨_, _, herror, hmessage, hwritten, _⟩ := decoded_iff_parsed .address h
  obtain ⟨hsame, hwords⟩ := hmessage hrefused .address
  exact ⟨h, (herror _).mpr ⟨[], "K", ["KT1"], _, rfl, by simp, hrefused, rfl, rfl⟩,
    hsame.trans (hwords.trans (by decide +kernel)), hwritten [id]⟩

end Body

end ContractQuery
