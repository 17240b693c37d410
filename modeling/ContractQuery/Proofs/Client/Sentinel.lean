import ContractQuery.Client.Session
import ContractQuery.Proofs.Micheline.RoundTrip

/-!
# A default in place of an error

A caller may put a default in place of an error and still tell the two apart, provided no answer is
ever the default. `Expr.invalid` is the default of an expression, `Script.empty` that of a script.

* `valueOr_eq_default_iff`: what is known of a decoder that never gives the default;
* **`default_iff_failed`**: no expression that was decoded has `Expr.invalid` anywhere inside, and so
  the calls that ask for an expression, and the call that asks for a script, give their default if
  and only if they failed, whatever the transport replies.
-/

namespace ContractQuery

namespace Client

open Json (nesting)
open Micheline (Expr)

/-! ## 1. Answers or defaults -/

/-- The expression of an answer. -/
def exprOf? : Query.Answer → Option Expr
  | .storage value => some value
  | .bigMapValue value => some value
  | _ => none

/-- The script of an answer. -/
def scriptOf? : Query.Answer → Option Contract.Script
  | .script script => some script
  | _ => none

/-- What a caller has who puts a default in place of an error, once the call has come to an end. -/
def Outcome.valueOr {α : Type} (pick : Query.Answer → Option α) (default : α) : Outcome → Option α
  | .answered answer => pick answer
  | .failed _ => some default
  | .pending => none

/-- The calls that ask for an expression. -/
inductive Call.AsksExpr : Call → Prop
  | storage (contract : Address) (block : BlockId) : AsksExpr (.storage contract block)
  | storageAt (contract : Address) (height : Int64) : AsksExpr (.storageAt contract height)
  | bigMapValue (bigMap : Int64) (key : ExprHash) (block : BlockId) :
    AsksExpr (.bigMapValue bigMap key block)
  | activeBigMapValue (bigMap : Int64) (key : ExprHash) : AsksExpr (.activeBigMapValue bigMap key)
  | bigMapValueAt (bigMap : Int64) (key : ExprHash) (height : Int64) :
    AsksExpr (.bigMapValueAt bigMap key height)

/-- What an expression is answered as, by a call that asks for one. -/
theorem Call.AsksExpr.answer {call : Call} (h : call.AsksExpr) : ∃ make : Expr → Query.Answer,
    (∀ text, call.query.answer text = Query.read Body.expr make text) ∧
      ∀ e, exprOf? (make e) = some e := by
  cases h <;> exact ⟨_, fun _ => rfl, fun _ => rfl⟩

/-- The outcome of a call is that of the transport's reply. -/
theorem outcome_ask {σ : Type} (transport : Transport σ) (call : Call) (s : σ) :
    (ask transport call s).1.1 = ((transport call.query.path s).1.outcome call.query).1 := rfl

/-- **A default that no body decodes to tells a failure from an answer.** -/
theorem valueOr_eq_default_iff {α : Type} {query : Query} {decoder : Body.Decoder α}
    {make : α → Query.Answer} {pick : Query.Answer → Option α} {default : α} {reply : Reply}
    (hanswer : ∀ text, query.answer text = Query.read decoder make text)
    (hpick : ∀ a, pick (make a) = some a)
    (hdefault : ∀ {text a}, Body.decode decoder text = .ok a → a ≠ default)
    (hreply : reply ≠ .never) :
    ∃ a, (reply.outcome query).1.valueOr pick default = some a ∧
      (a = default ↔ ∃ error, (reply.outcome query).1 = .failed error) := by
  cases reply with
  | never => exact absurd rfl hreply
  | failed error => exact ⟨default, rfl, fun _ => ⟨error, rfl⟩, fun _ => rfl⟩
  | body text =>
    cases h : Body.decode decoder text with
    | ok a =>
      have hout : (Reply.outcome query (.body text)).1 = .answered (make a) := by
        simp only [Reply.outcome, hanswer, Query.read, h]
      rw [hout]
      refine ⟨a, hpick a, fun ha => absurd ha (hdefault h), ?_⟩
      rintro ⟨error, herror⟩
      cases herror
    | error failure =>
      have hout : (Reply.outcome query (.body text)).1 = .failed (.body failure) := by
        simp only [Reply.outcome, hanswer, Query.read, h]
      rw [hout]
      exact ⟨default, rfl, fun _ => ⟨_, rfl⟩, fun _ => rfl⟩

/-! ## 2. Scripts -/

theorem expr_wellFormed {room : Nat} {node : Json.Node} {e : Expr}
    (h : Body.expr room node = .ok e) : e.WellFormed := by
  obtain ⟨v, -, he⟩ := Body.expr_eq_ok_iff.mp h
  exact (Micheline.denotes_of_ofValue? he).wellFormed

/-- The storage met of a script is well formed. -/
def StorageMet (met : Body.ScriptParts) : Prop := ∀ e, met.storage = some e → e.WellFormed

theorem storageMet_read (room : Nat) : ∀ field ∈ Body.scriptFields, ∀ {met : Body.ScriptParts}
    {node : Json.Node} {met' : Body.ScriptParts}, StorageMet met →
    field.read met room node = .ok met' → StorageMet met' := by
  intro field hfield met node met' hmet h
  simp only [Body.scriptFields, List.mem_cons, List.not_mem_nil, or_false] at hfield
  rcases hfield with rfl | rfl
  · obtain ⟨code, -, h⟩ := Body.bind_eq_ok_iff.mp h
    obtain rfl := Body.return_eq_ok_iff.mp h
    exact hmet
  · obtain ⟨e, he, h⟩ := Body.bind_eq_ok_iff.mp h
    obtain rfl := Body.return_eq_ok_iff.mp h
    intro e' he'
    cases he'
    exact expr_wellFormed he

/-- **The storage of a script that was decoded is well formed.** -/
theorem script_storage_wellFormed {text : String} {script : Contract.Script}
    (h : Body.decode Body.script text = .ok script) : script.storage.WellFormed := by
  obtain ⟨hread, -⟩ := Body.decode_eq_ok_iff.mp h
  have hstart : StorageMet ⟨none, none⟩ := fun e he => by cases he
  obtain ⟨met, hmet, hfinish⟩ := Body.record_inv (fun _ => storageMet_read _) hstart hread
  obtain ⟨code, -, hfinish⟩ := Body.bind_eq_ok_iff.mp hfinish
  obtain ⟨storage, hstorage, hfinish⟩ := Body.bind_eq_ok_iff.mp hfinish
  obtain rfl := Body.return_eq_ok_iff.mp hfinish
  exact hmet storage (Body.required_eq_ok_iff.mp hstorage)

/-! ## 3. Defaults -/

theorem expr_ne_invalid {text : String} {e : Expr} (h : Body.decode Body.expr text = .ok e) :
    e ≠ .invalid := (Micheline.decode_stable h).1.ne_invalid

theorem script_ne_empty {text : String} {script : Contract.Script}
    (h : Body.decode Body.script text = .ok script) : script ≠ .empty := by
  rintro rfl
  exact Expr.not_wellFormed_invalid (script_storage_wellFormed h)

/-- The call gives `default` in place of an error, and only then. -/
def DefaultIffFailed {α : Type} (pick : Query.Answer → Option α) (default : α) (call : Call) : Prop :=
  ∀ {σ : Type} (transport : Transport σ) (s : σ), (transport call.query.path s).1 ≠ .never →
    ∃ a, (ask transport call s).1.1.valueOr pick default = some a ∧
      (a = default ↔ ∃ error, (ask transport call s).1.1 = .failed error)

theorem default_iff_failed_of_asksExpr {call : Call} (h : call.AsksExpr) :
    DefaultIffFailed exprOf? .invalid call := by
  intro σ transport s hreply
  obtain ⟨make, hanswer, hpick⟩ := h.answer
  rw [outcome_ask]
  exact valueOr_eq_default_iff hanswer hpick expr_ne_invalid hreply

theorem default_iff_failed_script (contract : Address) :
    DefaultIffFailed scriptOf? .empty (.script contract) := by
  intro σ transport s hreply
  rw [outcome_ask]
  exact valueOr_eq_default_iff (fun _ => rfl) (fun _ => rfl) script_ne_empty hreply

/-- **A decoded expression has `Expr.invalid` nowhere inside and no integer that is no numeral; it is
    written no deeper than the text it came from, and read back. So the calls that ask for an
    expression give `Expr.invalid`, and those that ask for a script `Script.empty`, in place of an
    error and only then.** -/
theorem default_iff_failed :
    (∀ {text : String} {e : Expr}, Body.decode Body.expr text = .ok e →
      e.WellFormed ∧ nesting e.encode ≤ nesting text ∧ Body.decode Body.expr e.encode = .ok e) ∧
    (∀ {call : Call}, call.AsksExpr → DefaultIffFailed exprOf? .invalid call) ∧
    (∀ contract : Address, DefaultIffFailed scriptOf? .empty (.script contract)) :=
  ⟨Micheline.decode_stable, default_iff_failed_of_asksExpr, default_iff_failed_script⟩

/-- A text of arrays only, that is none of the texts an expression is written as. -/
theorem decode_array_form : Body.decode Body.expr "[\"Pair\",[[\"7\"]],[\"%a\"]]" =
    .ok (.app "Pair" [.int "7"] ["%a"]) := by
  let v : Json.Value := .array [.string "Pair", .array [.array [.string "7"]], .array [.string "%a"]]
  have htext : "[\"Pair\",[[\"7\"]],[\"%a\"]]" = v.text := by decide +kernel
  have hfree : v.NumberFree := .array (by
    simpa using ⟨.string _, .array (by simpa using .array (by simpa using .string _)),
      .array (by simpa using .string _)⟩)
  rw [htext, Body.decode_text _ hfree, Body.expr_eq_ok_iff]
  exact ⟨v, Body.readValue_outline _ v hfree, by decide +kernel⟩

/-- The same text as a reply, and a call that fails. -/
theorem default_iff_failed_at_array_form :
    let text := "[\"Pair\",[[\"7\"]],[\"%a\"]]"
    let e : Expr := .app "Pair" [.int "7"] ["%a"]
    let contract : Address := ⟨"KT1PWx2mnDueood7fEmfbBDKx1D9BAnnXitn", by decide +kernel⟩
    let answered := (ask prepared (.storage contract .head) ⟨[], [.body text]⟩).1.1
    let refused := (ask prepared (.script contract) ⟨[], [.failed (.status 404 "")]⟩).1.1
    (Body.decode Body.expr text = .ok e ∧ e.WellFormed ∧ nesting e.encode ≤ nesting text ∧
      Body.decode Body.expr e.encode = .ok e) ∧
    (∃ a, answered.valueOr exprOf? .invalid = some a ∧
      (a = .invalid ↔ ∃ error, answered = .failed error)) ∧
    (∃ a, refused.valueOr scriptOf? .empty = some a ∧
      (a = .empty ↔ ∃ error, refused = .failed error)) :=
  ⟨⟨decode_array_form, default_iff_failed.1 decode_array_form⟩,
    default_iff_failed.2.1 (.storage _ _) prepared _ nofun,
    default_iff_failed.2.2 _ prepared _ nofun⟩

end Client

end ContractQuery
