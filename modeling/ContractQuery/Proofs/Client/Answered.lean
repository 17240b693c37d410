import ContractQuery.Proofs.Client.Sentinel
import ContractQuery.Proofs.Contract.Script
import ContractQuery.Proofs.Micheline.Unmodified

/-!
# Answers and the replies they came from

A call is answered only if the transport replied with a body, and the answer is what that body
decodes to. What holds of everything that was decoded therefore holds of the answers.

* `Call.Delivers`: the call is answered with what the body of the reply decodes to. The calls that
  ask for an expression or for a script do so, by way of `answered_iff`.
* **`rearranged_iff_straight`**: an expression says what the node sent, up to the order of members
  and empty members, if and only if no array that the node sent begins with a string. Otherwise it
  does not (`not_rearranged`).
* **`valid_iff_filled`**: a script is free of `Expr.invalid`, and is read back, if and only if the
  sections that the node sent were filled. Otherwise it is not (`invalid_of_no_sections`).
-/

namespace ContractQuery

namespace Client

open Contract (Code Filled FilledBy Script)
open Json (Value)
open Micheline (Denotes Expr Rearranged Straight)

/-! ## 1. Where answers come from -/

/-- An answer is what a body decodes to. -/
theorem answered_iff {α : Type} {query : Query} {decoder : Body.Decoder α} {make : α → Query.Answer}
    (hanswer : ∀ text, query.answer text = Query.read decoder make text) {reply : Reply}
    {answer : Query.Answer} : (reply.outcome query).1 = .answered answer ↔
      ∃ text a, reply = .body text ∧ Body.decode decoder text = .ok a ∧ answer = make a := by
  cases reply with
  | never => simp [Reply.outcome]
  | failed error => simp [Reply.outcome]
  | body text =>
    rw [Reply.outcome, hanswer, Query.read]
    cases hdecode : Body.decode decoder text with
    | ok a =>
      constructor
      · intro h
        exact ⟨text, a, rfl, hdecode, (Outcome.answered.inj h).symm⟩
      · rintro ⟨text', a', htext, ha', rfl⟩
        cases htext
        rw [hdecode] at ha'
        cases ha'
        rfl
    | error failure =>
      constructor
      · intro h
        cases h
      · rintro ⟨text', a', htext, ha', -⟩
        cases htext
        rw [hdecode] at ha'
        cases ha'

/-- The call is answered with what the body of the transport's reply decodes to, and only then. -/
def Call.Delivers {α : Type} (call : Call) (decoder : Body.Decoder α)
    (pick : Query.Answer → Option α) : Prop :=
  ∀ {σ : Type} (transport : Transport σ) (s : σ) (a : α),
    (∃ answer, (ask transport call s).1.1 = .answered answer ∧ pick answer = some a) ↔
      ∃ text, (transport call.query.path s).1 = .body text ∧ Body.decode decoder text = .ok a

theorem Call.delivers_of_read {α : Type} {call : Call} {decoder : Body.Decoder α}
    {make : α → Query.Answer} {pick : Query.Answer → Option α}
    (hanswer : ∀ text, call.query.answer text = Query.read decoder make text)
    (hpick : ∀ a, pick (make a) = some a) : call.Delivers decoder pick := by
  intro σ transport s a
  simp only [outcome_ask, answered_iff hanswer]
  constructor
  · rintro ⟨_, ⟨text, a', htext, ha', rfl⟩, hpicked⟩
    rw [hpick] at hpicked
    cases hpicked
    exact ⟨text, htext, ha'⟩
  · intro ⟨text, htext, ha⟩
    exact ⟨make a, ⟨text, a, htext, ha, rfl⟩, hpick a⟩

theorem Call.AsksExpr.delivers {call : Call} (h : call.AsksExpr) :
    call.Delivers Body.expr exprOf? := by
  obtain ⟨make, hanswer, hpick⟩ := h.answer
  exact Call.delivers_of_read hanswer hpick

theorem delivers_script (contract : Address) : (Call.script contract).Delivers Body.script scriptOf? :=
  @Call.delivers_of_read _ (.script contract) _ .script scriptOf? (fun _ => rfl) fun _ => rfl

/-! ## 2. Expressions -/

/-- **What is written of an expression is what it was decoded from, up to the order of members and
    empty members `args` and `annots`, if and only if no array begins with a string, save for the
    lists of annotations. Of the arrays just those that do not are sequences, of the objects none.
    And an expression that a call is answered with was decoded from what the node sent.** -/
theorem rearranged_iff_straight {text : String} {e : Expr}
    (h : Body.decode Body.expr text = .ok e) :
    (∃ v w, Body.decode Body.readValue text = .ok v ∧ Body.decode Body.readValue e.encode = .ok w ∧
      (Rearranged v w ↔ Straight v) ∧
      (∀ items, v = .array items →
        ((∃ es, e = .seq es) ↔ ∀ first rest, items ≠ .string first :: rest)) ∧
      (∀ members, v = .object members → ∀ es, e ≠ .seq es)) ∧
    (∀ {call : Call}, call.AsksExpr → call.Delivers Body.expr exprOf?) := by
  refine ⟨?_, Call.AsksExpr.delivers⟩
  obtain ⟨v, hv, hdenotes, hw⟩ := Micheline.values_of_decode h
  refine ⟨v, e.toValue, hv, hw, hdenotes.rearranged_iff, ?_, ?_⟩
  · rintro items rfl
    exact hdenotes.seq_iff
  · rintro members rfl es
    exact hdenotes.ne_seq_of_object es

/-- A text of which an application was decoded, in another order than it is written in. -/
theorem decode_other_order :
    let text := "\x7b\"annots\":[],\"args\":[[\x7b\"int\":\"1\"\x7d]],\"prim\":\"Pair\"\x7d"
    Body.decode Body.expr text = .ok (.app "Pair" [.seq [.int "1"]] []) := by
  intro text
  let v : Value := .object [("annots", .array []),
    ("args", .array [.array [.object [("int", .string "1")]]]), ("prim", .string "Pair")]
  have htext : text = v.text := by decide +kernel
  have hinner : (Value.array [.object [("int", .string "1")]]).NumberFree :=
    .array (by simpa using .object (by simpa using .string _))
  have hfree : v.NumberFree :=
    .object (by simpa using ⟨.array (by simp), .array (by simpa using hinner), .string _⟩)
  have hv : Body.decode Body.readValue v.text = .ok v :=
    Body.decode_readValue_text hfree (by decide +kernel)
  rw [htext, Micheline.decode_expr_eq_ok_iff]
  exact ⟨v, hv, Micheline.ofValue?_eq_some_iff.mp (by decide +kernel)⟩

/-- That text, and a call that is answered with it. -/
theorem rearranged_iff_straight_at_other_order :
    let text := "\x7b\"annots\":[],\"args\":[[\x7b\"int\":\"1\"\x7d]],\"prim\":\"Pair\"\x7d"
    let e : Expr := .app "Pair" [.seq [.int "1"]] []
    let contract : Address := ⟨"KT1XiRoQb6e57g7vjcUrSyVD1REekGQemkv4", by decide +kernel⟩
    (∃ v w, Body.decode Body.readValue text = .ok v ∧ Body.decode Body.readValue e.encode = .ok w ∧
      (Rearranged v w ↔ Straight v) ∧
      (∀ items, v = .array items →
        ((∃ es, e = .seq es) ↔ ∀ first rest, items ≠ .string first :: rest)) ∧
      (∀ members, v = .object members → ∀ es, e ≠ .seq es)) ∧
    ∃ answer, (ask prepared (.storage contract .head) ⟨[], [.body text]⟩).1.1 = .answered answer ∧
      exprOf? answer = some e :=
  have ⟨hvalues, hcalls⟩ := rearranged_iff_straight decode_other_order
  ⟨hvalues, (hcalls (.storage _ _) prepared _ _).mpr ⟨_, rfl, decode_other_order⟩⟩

/-- **An array with one numeral is decoded to an integer, and written as an object.** -/
theorem not_rearranged : ¬ ∀ (text : String) (e : Expr) (v w : Value),
    Body.decode Body.expr text = .ok e → Body.decode Body.readValue text = .ok v →
    Body.decode Body.readValue e.encode = .ok w → Rearranged v w := by
  intro h
  let v : Value := .array [.string "5"]
  have hfree : v.NumberFree := .array (by simpa using .string _)
  have htext : "[\"5\"]" = v.text := by decide +kernel
  have hv : Body.decode Body.readValue "[\"5\"]" = .ok v := by
    rw [htext]
    exact Body.decode_readValue_text hfree (by decide +kernel)
  have hdenotes : Denotes v (.int "5") := Micheline.ofValue?_eq_some_iff.mp (by decide +kernel)
  have he : Body.decode Body.expr "[\"5\"]" = .ok (.int "5") :=
    Micheline.decode_expr_eq_ok_iff.mpr ⟨v, hv, hdenotes⟩
  obtain ⟨-, -, -, hw⟩ := Micheline.values_of_decode he
  -- no array is a rearranged object
  have hr : Rearranged (.array [.string "5"]) (.object [("int", .string "5")]) := h _ _ _ _ he hv hw
  cases hr

/-! ## 3. Scripts -/

/-- **A script that was decoded is what its sections make of it. Its storage and its views are well
    formed. What a section with one argument says is well formed if the section was filled, and is
    `Expr.invalid` if not. So nothing is missing if and only if all three were filled, and then, and
    only then, the script is read back. And a script that a call is answered with was decoded from
    what the node sent.** -/
theorem valid_iff_filled {text : String} {script : Script}
    (h : Body.decode Body.script text = .ok script) :
    (∃ sections : List Expr,
      Body.decode Body.scriptSections text = .ok (sections, script.storage) ∧
      Code.ofSections sections = .ok script.code ∧
      (∀ e ∈ script.storage :: script.code.views, e.WellFormed) ∧
      (∀ m ∈ script.code.arguments, (FilledBy sections m.1 ∧ m.2.WellFormed) ∨
        (¬ FilledBy sections m.1 ∧ m.2 = .invalid)) ∧
      ((∀ e ∈ script.parts, Expr.invalid ∉ e.nodes) ↔ Filled sections) ∧
      ∀ other, Body.decode Body.script script.toValue.text = .ok other ↔
        Filled sections ∧ other = script) ∧
    (∀ contract : Address, (Call.script contract).Delivers Body.script scriptOf?) := by
  refine ⟨?_, delivers_script⟩
  obtain ⟨sections, hsections, hmade⟩ := Contract.madeOf_of_decode h
  exact ⟨sections, hsections, hmade.split, hmade.wellFormed,
    fun _ => hmade.argument_wellFormed_or, hmade.valid_iff, hmade.readBack_iff⟩

/-- A script with all its sections, as it is written, and a call that is answered with it. -/
theorem valid_iff_filled_at_complete :
    let script : Script :=
      ⟨⟨.apply "unit" [], .apply "nat" [], .seq [], [.apply "view" [.string "get"]]⟩, .int "7"⟩
    let text := script.toValue.text
    let contract : Address := ⟨"KT1XiRoQb6e57g7vjcUrSyVD1REekGQemkv4", by decide +kernel⟩
    (∃ sections : List Expr,
      Body.decode Body.scriptSections text = .ok (sections, script.storage) ∧
      Code.ofSections sections = .ok script.code ∧
      (∀ e ∈ script.storage :: script.code.views, e.WellFormed) ∧
      (∀ m ∈ script.code.arguments, (FilledBy sections m.1 ∧ m.2.WellFormed) ∨
        (¬ FilledBy sections m.1 ∧ m.2 = .invalid)) ∧
      ((∀ e ∈ script.parts, Expr.invalid ∉ e.nodes) ↔ Filled sections) ∧
      ∀ other, Body.decode Body.script script.toValue.text = .ok other ↔
        Filled sections ∧ other = script) ∧
    ∃ answer, (ask prepared (.script contract) ⟨[], [.body text]⟩).1.1 = .answered answer ∧
      scriptOf? answer = some script := by
  intro script text contract
  have hwf : ∀ e ∈ script.code.toSections, e.WellFormed := by
    simp [script, Code.toSections, Expr.apply]
  have hdepth : ∀ e ∈ script.code.toSections, e.toValue.depth ≤ 125 := by decide +kernel
  have hstorage : script.storage.WellFormed :=
    Expr.wellFormed_int.mpr (Micheline.isNumeral_iff.mp (by decide +kernel))
  have hsplit : Code.ofSections script.code.toSections = .ok script.code :=
    Code.ofSections_toSections (by simp [script])
  have h : Body.decode Body.script text = .ok script := by
    have hdeepest : Body.deepest = 125 + 2 := rfl
    rw [Body.decode_text _ (Body.numberFree_script script), hdeepest, Body.script_outline_eq_ok_iff]
    exact ⟨fun e he => ⟨hwf e he, hdepth e he⟩, ⟨hstorage, by decide +kernel⟩, hsplit, rfl⟩
  obtain ⟨hsections, hcalls⟩ := valid_iff_filled h
  exact ⟨hsections, (hcalls contract prepared _ _).mpr ⟨_, rfl, h⟩⟩

/-- **A script of which no section was sent has `Expr.invalid` in their place, and is not read
    back.** -/
theorem invalid_of_no_sections : ¬ ∀ (text : String) (script : Script),
    Body.decode Body.script text = .ok script →
    (∀ e ∈ script.parts, Expr.invalid ∉ e.nodes) ∧
      Body.decode Body.script script.toValue.text = .ok script := by
  intro h
  let v : Value := .object [("code", .array []), ("storage", .array [])]
  have hfree : v.NumberFree := .object (by simpa using .array (by simp))
  have htext : "\x7b\"code\":[],\"storage\":[]\x7d" = v.text := by decide +kernel
  have hscript : Body.decode Body.script "\x7b\"code\":[],\"storage\":[]\x7d" =
      .ok ⟨.empty, .seq []⟩ := by
    rw [htext, Body.decode_text _ hfree]
    rfl
  obtain ⟨hvalid, -⟩ := h _ _ hscript
  exact hvalid .invalid List.mem_cons_self (List.mem_singleton_self _)

end Client

end ContractQuery
