import ContractQuery.Proofs.BigMap
import ContractQuery.Proofs.Body.Open
import ContractQuery.Proofs.Body.Strings
import ContractQuery.Proofs.Client.Session
import ContractQuery.Proofs.Client.Sentinel
import ContractQuery.Proofs.Decimal.Accumulation

/-!
# Integers mean what they say

Integers travel as strings and are wanted as signed words in three places: an integer in an expression, a
balance, and the number of bytes of a big map. In all of them the string is a numeral or it is not, and
the numeral is in the range of words or it is not. Each place reports this in its own way.

* `asInt64_iff`: integers in expressions. Those that were decoded are numerals, so only the range
  counts.
* `ask_balance`: balances, in the second step of a call.
* `Describes`, `decode_info`: descriptions of big maps that have a string where the number of bytes
  stands, with their members in any order and others beside them, or in an array.
* **`words_mean_numerals`**: all of it together.
-/

namespace ContractQuery

namespace Client

open BigMap (Info)
open Body (Failure StringText)
open Decimal (Numeral readInt64 readInt64_eq_ok_iff readInt64_error_iff)
open Json (ElementText Literal Node)
open Micheline (Expr IsInteger)

/-! ## 1. Integers in expressions -/

/-- The text of an integer of the chain is a numeral. -/
theorem numeral_of_isInteger {text : String} (h : IsInteger text) :
    ∃ z, Numeral true text.toList z := by
  obtain ⟨digits, hne, hdigits, htext⟩ := h
  have hall : Decimal.isDigits digits = true := Micheline.isDigits_iff.mpr ⟨hne, hdigits⟩
  rcases htext with htext | htext
  · rw [htext]
    exact ⟨_, .plain hall⟩
  · rw [htext]
    exact ⟨_, .minus rfl hall⟩

theorem asInt64_eq_some_iff {text : String} {n : Int64} :
    (Expr.int text).asInt64 = some n ↔ Numeral true text.toList n.toInt := by
  rw [← readInt64_eq_ok_iff]
  show (readInt64 text).toOption = some n ↔ _
  cases readInt64 text <;> simp [Except.toOption]

/-- **A numeral has a word if and only if that is its integer, and none if and only if its integer is not
    in the range of words.** -/
theorem asInt64_iff {text : String} {z : Int} (h : Numeral true text.toList z) :
    (∀ n, (Expr.int text).asInt64 = some n ↔ n.toInt = z) ∧
      ((Expr.int text).asInt64 = none ↔
        ¬ (Int64.minValue.toInt ≤ z ∧ z ≤ Int64.maxValue.toInt)) := by
  have hsome : ∀ n, (Expr.int text).asInt64 = some n ↔ n.toInt = z := by
    intro n
    rw [asInt64_eq_some_iff]
    constructor
    · intro hn
      exact hn.unique h
    · intro hn
      rw [hn]
      exact h
  refine ⟨hsome, ?_⟩
  rw [Option.eq_none_iff_forall_ne_some]
  constructor
  · intro hnone hrange
    have hword := Int64.toInt_ofInt_of_le hrange.1 (Int.lt_add_one_of_le hrange.2)
    exact hnone _ ((hsome _).mpr hword)
  · intro hrange n hn
    rw [hsome] at hn
    exact hrange ⟨hn ▸ n.minValue_le_toInt, hn ▸ n.toInt_le⟩

/-- **The integers of an expression that was read are numerals, so they have a word unless they are not
    in its range.** -/
theorem asInt64_of_expr {room : Nat} {node : Node} {e : Expr} (h : Body.expr room node = .ok e)
    {text : String} (hmem : .int text ∈ e.nodes) :
    ∃ z, (∀ z', Numeral true text.toList z' ↔ z' = z) ∧
      (∀ n, (Expr.int text).asInt64 = some n ↔ n.toInt = z) ∧
      ((Expr.int text).asInt64 = none ↔
        ¬ (Int64.minValue.toInt ≤ z ∧ z ≤ Int64.maxValue.toInt)) := by
  have hinteger : IsInteger text := (expr_wellFormed h _ hmem).2 text rfl
  obtain ⟨z, hz⟩ := numeral_of_isInteger hinteger
  refine ⟨z, fun z' => ⟨fun hz' => hz'.unique hz, fun heq => ?_⟩, asInt64_iff hz⟩
  rw [heq]
  exact hz

/-! ## 2. Balances -/

/-- What a call for a balance comes to with a string. -/
theorem ask_balance {σ : Type} {transport : Transport σ} {call : Call} {s : σ} {text string : String}
    (hasks : call.AsksBalance) (hreply : (transport call.path s).1 = .body text)
    (hstring : StringText text string) :
    (ask transport call s).1.1 =
      match readInt64 string with
      | .ok n => .answered (.balance n)
      | .error fault => .failed (.integer fault) := by
  have hdecode := Body.decode_string_eq_ok_iff.mpr hstring
  cases hword : readInt64 string with
  | ok n =>
    have hanswer : Reader.balance.answer string = .ok (.balance n) := by
      show Query.Answer.balance <$> readInt64 string = _
      rw [hword]
      rfl
    cases hasks with
    | balance => exact outcome_of_concludes hreply (.answered hdecode hanswer)
    | balanceAt => exact outcome_of_concludes hreply (.answered hdecode hanswer)
  | error fault =>
    have hanswer := answer_balance_error_iff.mpr hword
    cases hasks with
    | balance => exact outcome_of_concludes hreply (.noInteger hdecode hanswer)
    | balanceAt => exact outcome_of_concludes hreply (.noInteger hdecode hanswer)

/-- **A call for a balance is answered with the integer of the string, and fails if there is none in the
    range of words.** -/
theorem ask_balance_iff {σ : Type} {transport : Transport σ} {call : Call} {s : σ}
    {text string : String} (hasks : call.AsksBalance)
    (hreply : (transport call.path s).1 = .body text) (hstring : StringText text string) :
    (∀ n, (ask transport call s).1.1 = .answered (.balance n) ↔
        Numeral true string.toList n.toInt) ∧
      ((∃ fault, (ask transport call s).1.1 = .failed (.integer fault)) ↔
        ∀ n : Int64, ¬ Numeral true string.toList n.toInt) := by
  rw [ask_balance hasks hreply hstring, ← readInt64_error_iff]
  simp only [← readInt64_eq_ok_iff]
  cases readInt64 string <;> simp

/-! ## 3. Numbers of bytes -/

/-- The outline describes a big map of these types, and has the string where the number of bytes
    stands. -/
inductive Describes (keyType valueType : Expr) (size : Literal) : Node → Prop
  | object {ms extras : List (Literal × Node)} {keyName valueName sizeName : Literal}
    {keyNode valueNode : Node} (hkeyName : keyName.Means "key_type")
    (hvalueName : valueName.Means "value_type") (hsizeName : sizeName.Means "total_bytes")
    (hkey : Body.expr (Body.deepest - 1) keyNode = .ok keyType)
    (hvalue : Body.expr (Body.deepest - 1) valueNode = .ok valueType)
    (hextras : ∀ m ∈ extras, ∃ name, m.1.Means name ∧ name ∉ Body.Record.bigMapInfo.fields)
    (hperm : ms.Perm
      ([(keyName, keyNode), (valueName, valueNode), (sizeName, .string size)] ++ extras)) :
    Describes keyType valueType size (.object (.ofList ms))
  | array {keyNode valueNode : Node} (hkey : Body.expr (Body.deepest - 1) keyNode = .ok keyType)
    (hvalue : Body.expr (Body.deepest - 1) valueNode = .ok valueType) :
    Describes keyType valueType size (.array (.ofList [keyNode, valueNode, .string size]))

section Descriptions

variable {keyType valueType : Expr} {size : Literal} {bytes : String}

/-- The word of a string, or its fault. -/
theorem int64_of_means (hsize : size.Means bytes) (room : Nat) : Body.int64 room (.string size) =
    match readInt64 bytes with
    | .ok n => .ok n
    | .error fault => .error (.mismatch (.integer fault)) := by
  have hread : Body.string room (.string size) = .ok bytes := Body.readLiteral_of_means hsize
  rw [Body.int64, hread]
  dsimp only [bind, Except.bind]
  cases readInt64 bytes with
  | ok n => rfl
  | error fault => rfl

/-- A description in an object, if its string is a word. -/
theorem bigMapInfo_of_members {ms extras : List (Literal × Node)} {keyName valueName sizeName : Literal}
    {keyNode valueNode : Node} {n : Int64} (hkeyName : keyName.Means "key_type")
    (hvalueName : valueName.Means "value_type") (hsizeName : sizeName.Means "total_bytes")
    (hkey : Body.expr (Body.deepest - 1) keyNode = .ok keyType)
    (hvalue : Body.expr (Body.deepest - 1) valueNode = .ok valueType)
    (hsize : Body.int64 (Body.deepest - 1) (.string size) = .ok n)
    (hextras : ∀ m ∈ extras, m.2.Whole ∧
      ∃ name, Body.readLiteral m.1 = .ok name ∧ name ∉ Body.Record.bigMapInfo.fields)
    (hperm : ms.Perm
      ([(keyName, keyNode), (valueName, valueNode), (sizeName, .string size)] ++ extras)) :
    Body.bigMapInfo Body.deepest (.object (.ofList ms)) = .ok ⟨keyType, valueType, n⟩ := by
  refine Body.record_object_extend Body.independent_infoFields ?_ hperm hextras
  have hobject := Body.bigMapInfo_object (Body.deepest - 1) keyNode valueNode (.string size)
    (Body.readLiteral_of_means hkeyName) (Body.readLiteral_of_means hvalueName)
    (Body.readLiteral_of_means hsizeName)
  rw [hkey, hvalue, hsize] at hobject
  exact hobject

/-- **What a description is read as, by what its string is read as.** -/
theorem bigMapInfo_of_describes {node : Node} (h : Describes keyType valueType size node)
    (hwhole : node.Whole) (hsize : size.Means bytes) : Body.bigMapInfo Body.deepest node =
      match readInt64 bytes with
      | .ok n => .ok ⟨keyType, valueType, n⟩
      | .error fault => .error (.mismatch (.integer fault)) := by
  have hword := int64_of_means hsize (Body.deepest - 1)
  cases h with
  | @array keyNode valueNode hkey hvalue =>
    have harray := Body.bigMapInfo_array (Body.deepest - 1) keyNode valueNode (.string size)
    rw [hkey, hvalue, hword] at harray
    refine harray.trans ?_
    cases readInt64 bytes with
    | ok n => rfl
    | error fault => rfl
  | @object ms extras keyName valueName sizeName keyNode valueNode hkeyName hvalueName hsizeName hkey
      hvalue hextras hperm =>
    have hskipped : ∀ m ∈ extras, m.2.Whole ∧
        ∃ name, Body.readLiteral m.1 = .ok name ∧ name ∉ Body.Record.bigMapInfo.fields := by
      intro m hm
      obtain ⟨name, hname, hother⟩ := hextras m hm
      have hmem : m ∈ ms := hperm.mem_iff.mpr (List.mem_append_right _ hm)
      exact ⟨(Json.Members.whole_ofList_iff.mp hwhole m hmem).2, name,
        Body.readLiteral_of_means hname, hother⟩
    cases hread : readInt64 bytes with
    | ok n =>
      rw [hread] at hword
      exact bigMapInfo_of_members hkeyName hvalueName hsizeName hkey hvalue hword hskipped hperm
    | error fault =>
      obtain ⟨before, after, rfl⟩ := List.append_of_mem
        (hperm.mem_iff.mpr (by simp) : (sizeName, Node.string size) ∈ ms)
      -- with a zero in place of the string the description would be read
      have hlast : ∀ m : Literal × Node, ([(keyName, keyNode), (valueName, valueNode), m] ++ extras).Perm
          (m :: ([(keyName, keyNode), (valueName, valueNode)] ++ extras)) :=
        fun m => @List.perm_middle _ m [(keyName, keyNode), (valueName, valueNode)] extras
      have hrest : (before ++ after).Perm ([(keyName, keyNode), (valueName, valueNode)] ++ extras) :=
        ((List.perm_middle.symm.trans hperm).trans (hlast _)).cons_inv
      have hgood : (before ++ (sizeName, .string (Json.literalOf "0")) :: after).Perm
          ([(keyName, keyNode), (valueName, valueNode), (sizeName, .string (Json.literalOf "0"))] ++
            extras) :=
        List.perm_middle.trans ((hrest.cons _).trans (hlast _).symm)
      have hzero : Body.int64 (Body.deepest - 1) (.string (Json.literalOf "0")) = .ok 0 :=
        Body.int64_outline _ 0
      refine Body.record_object_error (Body.readLiteral_of_means hsizeName) rfl (fun met inner => ?_)
        (bigMapInfo_of_members hkeyName hvalueName hsizeName hkey hvalue hzero hskipped hgood)
      show (do return { met with totalBytes := some (← Body.int64 inner (.string size)) }) = _
      rw [int64_of_means hsize, hread]
      rfl

/-- **A description is decoded with the integer of its string, and fails if there is none in the range of
    words.** -/
theorem decode_info_iff {text : String} {node : Node} (htext : ElementText text.toList node)
    (h : Describes keyType valueType size node) (hsize : size.Means bytes) :
    (∀ info, Body.decode Body.bigMapInfo text = .ok info ↔
        info.keyType = keyType ∧ info.valueType = valueType ∧
          Numeral true bytes.toList info.totalBytes.toInt) ∧
      ((∃ fault, Body.decode Body.bigMapInfo text = .error (.mismatch (.integer fault))) ↔
        ∀ n : Int64, ¬ Numeral true bytes.toList n.toInt) := by
  rw [Body.decode_of_elementText _ htext, bigMapInfo_of_describes h htext.whole hsize,
    ← readInt64_error_iff]
  simp only [← readInt64_eq_ok_iff]
  cases readInt64 bytes with
  | error fault => simp
  | ok n =>
    refine ⟨fun info => ?_, by simp⟩
    constructor
    · intro hinfo
      obtain rfl := Except.ok.inj hinfo
      exact ⟨rfl, rfl, rfl⟩
    · intro ⟨hkeyType, hvalueType, hn⟩
      obtain rfl := Except.ok.inj hn
      rw [← hkeyType, ← hvalueType]

end Descriptions

/-! ## 4. All of them -/

/-- **Every integer in an expression that was read denotes just one number, and has a word if and only if
    that is in the range of words. A call for a balance is answered with the word that the string denotes,
    and fails with a fault of its own if the string denotes none. A description of a big map is decoded
    with the word that its string denotes, and is refused if the string denotes none. And these words may
    be accumulated digit by digit in a word: what it holds is always the number of the digits so far.** -/
theorem words_mean_numerals :
    (∀ {room : Nat} {node : Node} {e : Expr}, Body.expr room node = .ok e →
      ∀ {text : String}, .int text ∈ e.nodes → ∃ z, (∀ z', Numeral true text.toList z' ↔ z' = z) ∧
        (∀ n, (Expr.int text).asInt64 = some n ↔ n.toInt = z) ∧
        ((Expr.int text).asInt64 = none ↔
          ¬ (Int64.minValue.toInt ≤ z ∧ z ≤ Int64.maxValue.toInt))) ∧
    (∀ {σ : Type} {transport : Transport σ} {call : Call} {s : σ} {text string : String},
      call.AsksBalance → (transport call.path s).1 = .body text → StringText text string →
      (∀ n, (ask transport call s).1.1 = .answered (.balance n) ↔
        Numeral true string.toList n.toInt) ∧
      ((∃ fault, (ask transport call s).1.1 = .failed (.integer fault)) ↔
        ∀ n : Int64, ¬ Numeral true string.toList n.toInt)) ∧
    (∀ {keyType valueType : Expr} {size : Literal} {bytes text : String} {node : Node},
      ElementText text.toList node → Describes keyType valueType size node → size.Means bytes →
      (∀ info, Body.decode Body.bigMapInfo text = .ok info ↔
        info.keyType = keyType ∧ info.valueType = valueType ∧
          Numeral true bytes.toList info.totalBytes.toInt) ∧
      ((∃ fault, Body.decode Body.bigMapInfo text = .error (.mismatch (.integer fault))) ↔
        ∀ n : Int64, ¬ Numeral true bytes.toList n.toInt)) ∧
    (∀ text : String, readInt64 text = Decimal.readWord text.toList) ∧
    ∀ (negative : Bool) (digits : List Char) (n : Int64),
      Decimal.accumulate negative digits = .ok n ↔ (∀ c ∈ digits, c.isDigit = true) ∧
        n.toInt = Decimal.withSign negative (Decimal.value digits) :=
  ⟨asInt64_of_expr, ask_balance_iff, decode_info_iff,
    fun text => (Decimal.readWord_eq text.toList).symm, fun _ _ _ => Decimal.accumulate_eq_ok_iff⟩

/-- An integer with leading zeros and one that is too large for a word, a balance with a `+`, and the least
    number of bytes. -/
theorem words_mean_numerals_at_bounds :
    let e : Expr := .seq [.int "-009", .int "9223372036854775808"]
    let call : Call :=
      .balance ⟨"tz4FhD3vi3hu7DdLWPoHUnChuYVtPPmL8shT", by decide +kernel⟩ .head
    let size := "-9223372036854775808"
    let info := Json.Value.array [.array [], .array [], .string size]
    Body.expr 127 e.toValue.outline = .ok e ∧
      (Expr.int "-009").asInt64 = some (-9) ∧ (Expr.int "9223372036854775808").asInt64 = none ∧
      (ask prepared call ⟨[], [.body (Json.Value.string "+402").text]⟩).1.1 = .answered (.balance 402) ∧
      Body.decode Body.bigMapInfo info.text = .ok ⟨.seq [], .seq [], Int64.minValue⟩ := by
  intro e call size info
  have hwell : e.WellFormed := by
    simp only [e, Expr.wellFormed_seq, List.forall_mem_cons, Expr.wellFormed_int]
    exact ⟨Micheline.isNumeral_iff.mp (by decide +kernel),
      Micheline.isNumeral_iff.mp (by decide +kernel), by simp⟩
  have he : Body.expr 127 e.toValue.outline = .ok e :=
    Micheline.expr_outline_eq_ok_iff.mpr ⟨⟨hwell, by decide +kernel⟩, rfl⟩
  obtain ⟨hint, hbalance, hinfo, _⟩ := words_mean_numerals
  obtain ⟨z, hz, hsome, _⟩ := hint he (by simp [e, Expr.nodes, Expr.nodesOfAll] : .int "-009" ∈ e.nodes)
  have hnine : (-9 : Int) = z :=
    (hz _).mp (.minus rfl (by decide +kernel : Decimal.isDigits ['0', '0', '9'] = true))
  obtain ⟨z', hz', _, hnone⟩ :=
    hint he (by simp [e, Expr.nodes, Expr.nodesOfAll] : .int "9223372036854775808" ∈ e.nodes)
  have hlarge : (9223372036854775808 : Int) = z' :=
    (hz' _).mp (.plain (by decide +kernel :
      Decimal.isDigits "9223372036854775808".toList = true))
  have hfree : info.NumberFree :=
    .array (by simpa using ⟨Json.Value.NumberFree.array (by simp), Json.Value.NumberFree.string _⟩)
  have hdescribes : Describes (.seq []) (.seq []) (Json.literalOf size) info.outline :=
    @Describes.array _ _ _ (.array .closed) (.array .closed) rfl rfl
  refine ⟨he, (hsome _).mpr hnine, hnone.mpr ?_, ?_, ?_⟩
  · rw [← hlarge]
    decide
  · refine ((hbalance (.balance _ _) rfl (Body.stringText_text "+402")).1 402).mpr ?_
    exact .plus (by decide +kernel : Decimal.isDigits ['4', '0', '2'] = true)
  · have hword : readInt64 size = .ok Int64.minValue := by decide +kernel
    exact ((hinfo (Body.elementText_text hfree) hdescribes (Json.means_literalOf size)).1 _).mpr
      ⟨rfl, rfl, readInt64_eq_ok_iff.mp hword⟩

end Client

end ContractQuery
