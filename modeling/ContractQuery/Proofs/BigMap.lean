import ContractQuery.Proofs.Body.Grammatical
import ContractQuery.Proofs.Decimal
import ContractQuery.Proofs.Micheline.Readable

/-!
# Descriptions of big maps are read back

A description is written in one way and read in many: its members may come in any order or as an
array, with members of other names between them, and the number of bytes may have a `+` and leading
zeros. What is written of it is the same each time.

* `readable_of_bigMapInfo`: there was room for the types of a description that was read, one level
  below the description.
* `bigMapInfo_outline_eq_ok_iff`: what a description that was written is read as.
* **`readBack_iff_wellFormed`**: the same for texts, and so every description that was decoded is read
  back from what is written of it.
-/

namespace ContractQuery

namespace Body

open BigMap (Info)
open Json (Items Literal Members Node literalOf)
open Micheline (Readable)

/-! ## 1. Descriptions that were read -/

/-- There was room for the types that were met of a description. -/
structure TypesMet (room : Nat) (met : InfoParts) : Prop where
  keyType : ∀ e, met.keyType = some e → Readable room e
  valueType : ∀ e, met.valueType = some e → Readable room e

/-- Each field of a description leaves it so. -/
theorem typesMet_read {room : Nat} : ∀ field ∈ infoFields, ∀ {met : InfoParts} {node : Node}
    {met' : InfoParts}, TypesMet room met → field.read met room node = .ok met' →
    TypesMet room met' := by
  intro field hfield met node met' hmet h
  simp only [infoFields, List.mem_cons, List.not_mem_nil, or_false] at hfield
  rcases hfield with rfl | rfl | rfl
  · obtain ⟨e, he, h⟩ := bind_eq_ok_iff.mp h
    obtain rfl := return_eq_ok_iff.mp h
    refine ⟨fun e' he' => ?_, hmet.valueType⟩
    obtain rfl := Option.some.inj he'
    exact Micheline.readable_of_expr he
  · obtain ⟨e, he, h⟩ := bind_eq_ok_iff.mp h
    obtain rfl := return_eq_ok_iff.mp h
    refine ⟨hmet.keyType, fun e' he' => ?_⟩
    obtain rfl := Option.some.inj he'
    exact Micheline.readable_of_expr he
  · obtain ⟨n, _, h⟩ := bind_eq_ok_iff.mp h
    obtain rfl := return_eq_ok_iff.mp h
    exact ⟨hmet.keyType, hmet.valueType⟩

/-- **There was room for the types of a description that was read, in an object or in an array.** -/
theorem readable_of_bigMapInfo {room : Nat} {node : Node} {info : Info}
    (h : bigMapInfo (room + 1) node = .ok info) :
    Readable room info.keyType ∧ Readable room info.valueType := by
  have hfields : ∀ {inner : Nat}, room + 1 = inner + 1 → ∀ field ∈ infoFields,
      ∀ {met : InfoParts} {node : Node} {met' : InfoParts}, TypesMet room met →
        field.read met inner node = .ok met' → TypesMet room met' := by
    intro inner hinner
    obtain rfl := Nat.succ.inj hinner
    exact typesMet_read
  have hstart : TypesMet room ⟨none, none, none⟩ := ⟨nofun, nofun⟩
  obtain ⟨met, hmet, hfinish⟩ := record_inv hfields hstart h
  obtain ⟨keyType, hkey, hfinish⟩ := bind_eq_ok_iff.mp hfinish
  obtain ⟨valueType, hvalue, hfinish⟩ := bind_eq_ok_iff.mp hfinish
  obtain ⟨totalBytes, _, hfinish⟩ := bind_eq_ok_iff.mp hfinish
  obtain rfl := return_eq_ok_iff.mp hfinish
  exact ⟨hmet.keyType keyType (required_eq_ok_iff.mp hkey),
    hmet.valueType valueType (required_eq_ok_iff.mp hvalue)⟩

/-! ## 2. Descriptions that were written -/

/-- A description with its three members in the order in which they are written. -/
theorem bigMapInfo_object (room : Nat) {keyName valueName bytesName : Literal}
    (keyNode valueNode bytesNode : Node) (hkeyName : readLiteral keyName = .ok "key_type")
    (hvalueName : readLiteral valueName = .ok "value_type")
    (hbytesName : readLiteral bytesName = .ok "total_bytes") :
    bigMapInfo (room + 1) (.object (.ofList
      [(keyName, keyNode), (valueName, valueNode), (bytesName, bytesNode)])) = (do
          let keyType ← expr room keyNode
          let valueType ← expr room valueNode
          let totalBytes ← int64 room bytesNode
          return ⟨keyType, valueType, totalBytes⟩) := by
  simp only [bigMapInfo, record, enter, Members.ofList, eachMember, hkeyName, hvalueName, hbytesName]
  -- no member was met before, and after all three of them nothing is missing
  cases hkey : expr room keyNode with
  | error failure => simp [takeField, infoFields, hkey, bind, Except.bind]
  | ok keyType =>
    cases hvalue : expr room valueNode with
    | error failure =>
      simp [takeField, infoFields, hkey, hvalue, bind, Except.bind, pure, Except.pure]
    | ok valueType =>
      cases hbytes : int64 room bytesNode with
      | error failure =>
        simp [takeField, infoFields, hkey, hvalue, hbytes, bind, Except.bind, pure, Except.pure]
      | ok totalBytes =>
        simp [takeField, infoFields, hkey, hvalue, hbytes, InfoParts.finish, required, bind,
          Except.bind, pure, Except.pure]

/-- The same for a description in an array. -/
theorem bigMapInfo_array (room : Nat) (keyNode valueNode bytesNode : Node) :
    bigMapInfo (room + 1) (.array (.ofList [keyNode, valueNode, bytesNode])) = (do
          let keyType ← expr room keyNode
          let valueType ← expr room valueNode
          let totalBytes ← int64 room bytesNode
          return ⟨keyType, valueType, totalBytes⟩) := by
  simp only [bigMapInfo, record, enter, Items.ofList, infoFields, readFields, bind_assoc, pure_bind]
  dsimp only [bind, Except.bind]
  cases expr room keyNode with
  | error failure => rfl
  | ok keyType =>
    cases expr room valueNode with
    | error failure => rfl
    | ok valueType =>
      cases int64 room bytesNode with
      | error failure => rfl
      | ok totalBytes => rfl

theorem int64_eq_ok_iff {room : Nat} {node : Node} {n : Int64} :
    int64 room node = .ok n ↔
      ∃ text, string room node = .ok text ∧ Decimal.readInt64 text = .ok n := by
  rw [int64, bind_eq_ok_iff]
  refine exists_congr fun text => and_congr_right fun _ => ?_
  cases Decimal.readInt64 text <;> simp [return_eq_ok_iff]

/-- A word is read back from the string that it is written as. -/
theorem int64_outline (room : Nat) (n : Int64) :
    int64 room (Json.Value.string (Decimal.renderInt64 n)).outline = .ok n :=
  int64_eq_ok_iff.mpr ⟨_, readLiteral_literalOf _, Decimal.readInt64_renderInt64 n⟩

/-- **What a description that was written is read as.** -/
theorem bigMapInfo_outline_eq_ok_iff {room : Nat} {info info' : Info} :
    bigMapInfo (room + 1) info.toValue.outline = .ok info' ↔
      (Readable room info.keyType ∧ Readable room info.valueType) ∧ info' = info := by
  have hobject : info.toValue.outline = .object (.ofList
    [(literalOf "key_type", info.keyType.toValue.outline),
      (literalOf "value_type", info.valueType.toValue.outline),
      (literalOf "total_bytes", (Json.Value.string (Decimal.renderInt64 info.totalBytes)).outline)]) :=
    rfl
  rw [hobject, bigMapInfo_object room _ _ _ (readLiteral_literalOf _) (readLiteral_literalOf _)
    (readLiteral_literalOf _), int64_outline, bind_eq_ok_iff]
  constructor
  · intro ⟨keyType, hkeyRead, h⟩
    obtain ⟨valueType, hvalueRead, h⟩ := bind_eq_ok_iff.mp h
    obtain rfl := return_eq_ok_iff.mp h
    obtain ⟨hkey, rfl⟩ := Micheline.expr_outline_eq_ok_iff.mp hkeyRead
    obtain ⟨hvalue, rfl⟩ := Micheline.expr_outline_eq_ok_iff.mp hvalueRead
    exact ⟨⟨hkey, hvalue⟩, rfl⟩
  · rintro ⟨⟨hkey, hvalue⟩, rfl⟩
    exact ⟨_, Micheline.expr_outline_eq_ok_iff.mpr ⟨hkey, rfl⟩, bind_eq_ok_iff.mpr
      ⟨_, Micheline.expr_outline_eq_ok_iff.mpr ⟨hvalue, rfl⟩, rfl⟩⟩

end Body

/-! ## 3. Texts -/

namespace BigMap

open Json (nesting)
open Micheline (Readable)

theorem numberFree_info (info : Info) : info.toValue.NumberFree := by
  have hkey := info.keyType.numberFree_toValue
  have hvalue := info.valueType.numberFree_toValue
  exact .object (by simpa using ⟨hkey, hvalue, .string _⟩)

/-- The types lie one level below the description. -/
theorem nesting_info_le_iff {info : Info} {n : Nat} : nesting info.toValue.text ≤ n + 1 ↔
    info.keyType.toValue.depth ≤ n ∧ info.valueType.toValue.depth ≤ n := by
  rw [Body.nesting_text (numberFree_info info)]
  simp only [Info.toValue, Json.Value.depth, Json.membersDepth]
  omega

/-- What the text of a description is decoded as. -/
theorem decode_info_eq_ok_iff {info info' : Info} :
    Body.decode Body.bigMapInfo info.toValue.text = .ok info' ↔
      (info.keyType.WellFormed ∧ info.valueType.WellFormed ∧
        nesting info.toValue.text ≤ Body.deepest) ∧ info' = info := by
  have hdeepest : Body.deepest = 126 + 1 := rfl
  rw [Body.decode_text _ (numberFree_info info), hdeepest, Body.bigMapInfo_outline_eq_ok_iff,
    nesting_info_le_iff]
  unfold Readable
  constructor
  · intro ⟨⟨⟨hkey, hkeyDepth⟩, hvalue, hvalueDepth⟩, heq⟩
    exact ⟨⟨hkey, hvalue, hkeyDepth, hvalueDepth⟩, heq⟩
  · intro ⟨⟨hkey, hvalue, hkeyDepth, hvalueDepth⟩, heq⟩
    exact ⟨⟨⟨hkey, hkeyDepth⟩, hvalue, hvalueDepth⟩, heq⟩

/-- **A description is read back from its text if and only if both its types are well formed and the
    text nests at most 127 arrays and objects, whatever the number of bytes; else its text is refused,
    and never read as another. A description that was decoded is read back.** -/
theorem readBack_iff_wellFormed :
    (∀ info : Info,
      (Body.decode Body.bigMapInfo info.toValue.text = .ok info ↔
        info.keyType.WellFormed ∧ info.valueType.WellFormed ∧ nesting info.toValue.text ≤ 127) ∧
      ∀ other, Body.decode Body.bigMapInfo info.toValue.text = .ok other → other = info) ∧
    (∀ (text : String) (info : Info), Body.decode Body.bigMapInfo text = .ok info →
      Body.decode Body.bigMapInfo info.toValue.text = .ok info) := by
  constructor
  · intro info
    exact ⟨decode_info_eq_ok_iff.trans (and_iff_left rfl),
      fun other h => (decode_info_eq_ok_iff.mp h).2⟩
  · intro text info h
    have hread : Body.bigMapInfo (126 + 1) (Json.Document.ofText text).root = .ok info :=
      (Body.decode_eq_ok_iff.mp h).1
    obtain ⟨⟨hkey, hkeyDepth⟩, hvalue, hvalueDepth⟩ := Body.readable_of_bigMapInfo hread
    have hnesting : nesting info.toValue.text ≤ 126 + 1 :=
      nesting_info_le_iff.mpr ⟨hkeyDepth, hvalueDepth⟩
    exact decode_info_eq_ok_iff.mpr ⟨⟨hkey, hvalue, hnesting⟩, rfl⟩

/-- The least number of bytes, in an array of the fields with a numeral that has leading zeros. -/
theorem readBack_at_array_form :
    let text := "[[\"nat\",[]],[[]],\"-0009223372036854775808\"]"
    let info : Info := ⟨.apply "nat" [], .seq [.seq []], Int64.minValue⟩
    Body.decode Body.bigMapInfo text = .ok info ∧
      Body.decode Body.bigMapInfo info.toValue.text = .ok info := by
  intro text info
  let v : Json.Value := .array [.array [.string "nat", .array []], .array [.array []],
    .string "-0009223372036854775808"]
  have hfree : v.NumberFree := .array (by
    simpa using ⟨.array (by simpa using ⟨.string _, .array (by simp)⟩),
      .array (by simpa using .array (by simp)), .string _⟩)
  have htext : text = v.text := by decide +kernel
  have h : Body.decode Body.bigMapInfo text = .ok info := by
    rw [htext, Body.decode_text _ hfree]
    rfl
  exact ⟨h, readBack_iff_wellFormed.2 text info h⟩

end BigMap

end ContractQuery
