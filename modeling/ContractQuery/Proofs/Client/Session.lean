import ContractQuery.Client.Session
import ContractQuery.Proofs.Body.Wrapper
import ContractQuery.Proofs.Decimal
import ContractQuery.Proofs.Query
import Mathlib.Data.List.Forall2

/-!
# Sessions, call by call

What a call asks for and what it makes of a reply is said here call by call, without the questions
that calls share. A session then is a run of such calls.

* `Call.path`: what is asked for, from the block of the call and from its subject.
* `Call.reader`: what is read from a body, and what becomes of it. Only a balance may fail in this
  second step.
* `Call.Concludes`: what a call comes to with a reply. One rule for each way that can go.
* `Call.Step`, `Run`: one call, and calls one after the other. Each asks for one path, and comes to
  what the reply to that says (**`ask_eq_iff`**, **`session_eq_iff_run`**).
* `prepare`: what calls come to with prepared replies. That is what they come to on any transport with
  the same replies (`Run.outcomes`).
* **`session_iff_run_of_own_replies`**: every session is a run, and no call matters to the calls after
  it, be it answered, failed or given up.
-/

namespace ContractQuery

namespace Client

variable {σ : Type} {call : Call} {reply : Reply}

/-! ## 1. What calls ask for -/

/-- The block that a call is about. A height is the block of that level, and a call that names no
    block is about the head. -/
def Call.block : Call → BlockId
  | .contracts block | .balance _ block | .storage _ block | .bigMapKeys _ block
  | .bigMapValue _ _ block | .bigMapInfo _ block => block
  | .contractsAt height | .balanceAt _ height | .storageAt _ height | .bigMapValueAt _ _ height =>
    .level height
  | .script _ | .entrypoints _ | .activeBigMapKeys _ | .activeBigMapValue _ _
  | .activeBigMapInfo _ => .head

/-- What a call is about at its block, as the rest of a path. -/
def Call.subject : Call → List String
  | .contracts _ | .contractsAt _ => ["contracts"]
  | .balance contract _ | .balanceAt contract _ => ["contracts", contract.text, "balance"]
  | .script contract => ["contracts", contract.text, "script"]
  | .storage contract _ | .storageAt contract _ => ["contracts", contract.text, "storage"]
  | .entrypoints contract => ["contracts", contract.text, "entrypoints"]
  | .bigMapKeys bigMap _ | .activeBigMapKeys bigMap =>
    ["raw", "json", "big_maps", "index", Decimal.renderInt64 bigMap, "contents"]
  | .bigMapValue bigMap key _ | .activeBigMapValue bigMap key | .bigMapValueAt bigMap key _ =>
    ["raw", "json", "big_maps", "index", Decimal.renderInt64 bigMap, "contents", key.text]
  | .bigMapInfo bigMap _ | .activeBigMapInfo bigMap =>
    ["raw", "json", "big_maps", "index", Decimal.renderInt64 bigMap]

/-- The path that a call asks for. -/
def Call.path (call : Call) : String := "/".intercalate (segmentsAt call.block call.subject)

/-- **A call asks for its path.** -/
theorem path_query (call : Call) : call.query.path = call.path := by
  rw [Query.path_eq]
  cases call <;> rfl

example : (Call.activeBigMapInfo (-5)).query.path =
    "chains/main/blocks/head/context/raw/json/big_maps/index/-5" := by
  decide +kernel

/-! ## 2. What calls read -/

/-- How a body is read: what it holds, and what that is an answer of. -/
structure Reader where
  {Content : Type}
  decoder : Body.Decoder Content
  answer : Content → Except IntegerFault Query.Answer

/-- A reader that takes all that was decoded for an answer. -/
def Reader.plain {α : Type} (decoder : Body.Decoder α) (make : α → Query.Answer) : Reader :=
  ⟨decoder, fun a => .ok (make a)⟩

/-- The reader of a balance, which is a numeral in a string. -/
def Reader.balance : Reader := ⟨Body.string, fun text => .balance <$> Decimal.readInt64 text⟩

/-- How a call reads a body. -/
def Call.reader : Call → Reader
  | .contracts _ | .contractsAt _ => .plain (Body.list (Body.identifier .address)) .contracts
  | .balance _ _ | .balanceAt _ _ => .balance
  | .script _ => .plain Body.script .script
  | .storage _ _ | .storageAt _ _ => .plain Body.expr .storage
  | .entrypoints _ => .plain Body.wrappedEntrypoints .entrypoints
  | .bigMapKeys _ _ | .activeBigMapKeys _ =>
    .plain (Body.list (Body.identifier .exprHash)) .bigMapKeys
  | .bigMapValue _ _ _ | .activeBigMapValue _ _ | .bigMapValueAt _ _ _ =>
    .plain Body.expr .bigMapValue
  | .bigMapInfo _ _ | .activeBigMapInfo _ => .plain Body.bigMapInfo .bigMapInfo

/-- The answer that a reader finds in a body. -/
def Reader.read (reader : Reader) (text : String) : Except Query.AnswerFault Query.Answer :=
  match Body.decode reader.decoder text with
  | .error failure => .error (.body failure)
  | .ok content =>
    match reader.answer content with
    | .error fault => .error (.balance fault)
    | .ok answer => .ok answer

theorem read_plain {α : Type} (decoder : Body.Decoder α) (make : α → Query.Answer) (text : String) :
    (Reader.plain decoder make).read text = Query.read decoder make text := by
  unfold Reader.read Reader.plain Query.read
  cases Body.decode decoder text <;> rfl

theorem read_balance (contract : Address) (block : BlockId) (text : String) :
    Reader.balance.read text = (Query.balance contract block).answer text := by
  unfold Reader.read Reader.balance Query.answer
  cases Body.decode Body.string text with
  | error failure => rfl
  | ok string =>
    dsimp only
    cases Decimal.readInt64 string <;> rfl

/-- A call reads a body as the question does that it asks. -/
theorem answer_query (call : Call) (text : String) :
    call.query.answer text = call.reader.read text := by
  -- the two calls for a balance are the ones that read in two steps
  cases call with
  | balance contract block => exact (read_balance contract block text).symm
  | balanceAt contract height => exact (read_balance contract (.level height) text).symm
  | _ => exact (read_plain _ _ text).symm

/-- The calls that ask for a balance. -/
inductive Call.AsksBalance : Call → Prop
  | balance (contract : Address) (block : BlockId) : AsksBalance (.balance contract block)
  | balanceAt (contract : Address) (height : Int64) : AsksBalance (.balanceAt contract height)

/-! ## 3. What calls come to -/

/-- What a call comes to with a reply, and the events logged of it. -/
inductive Call.Concludes (call : Call) : Reply → Outcome × List Event → Prop
  | pending : call.Concludes .never (.pending, [])
  /-- The transport's error is the call's. -/
  | failed (error : ClientError) : call.Concludes (.failed error) (.failed error, [])
  /-- Only here the call logs something itself. -/
  | undecoded {text : String} {failure : Body.Failure}
    (h : Body.decode call.reader.decoder text = .error failure) :
    call.Concludes (.body text) (.failed (.body failure), [.undecoded call.path])
  | answered {text : String} {content : call.reader.Content} {answer : Query.Answer}
    (h : Body.decode call.reader.decoder text = .ok content)
    (hanswer : call.reader.answer content = .ok answer) :
    call.Concludes (.body text) (.answered answer, [])
  | noInteger {text : String} {content : call.reader.Content} {fault : IntegerFault}
    (h : Body.decode call.reader.decoder text = .ok content)
    (hanswer : call.reader.answer content = .error fault) :
    call.Concludes (.body text) (.failed (.integer fault), [])

/-- **A call comes to the outcome of the reply, and to nothing else.** -/
theorem concludes_iff {step : Outcome × List Event} :
    call.Concludes reply step ↔ reply.outcome call.query = step := by
  constructor
  · intro h
    cases h with
    | pending => rfl
    | failed error => rfl
    | undecoded h => rw [Reply.outcome, answer_query, path_query, Reader.read, h]
    | answered h hanswer =>
      rw [Reply.outcome, answer_query, Reader.read, h]
      simp only [hanswer]
    | noInteger h hanswer =>
      rw [Reply.outcome, answer_query, Reader.read, h]
      simp only [hanswer]
  · intro h
    rw [← h]
    cases reply with
    | never => exact .pending
    | failed error => exact .failed error
    | body text =>
      rw [Reply.outcome, answer_query, path_query, Reader.read]
      cases hdecode : Body.decode call.reader.decoder text with
      | error failure => exact .undecoded hdecode
      | ok content =>
        cases hanswer : call.reader.answer content with
        | error fault =>
          simp only [hanswer]
          exact .noInteger hdecode hanswer
        | ok answer =>
          simp only [hanswer]
          exact .answered hdecode hanswer

/-- A call comes to something with every reply, and to one thing only. -/
theorem existsUnique_concludes (call : Call) (reply : Reply) : ∃! step, call.Concludes reply step := by
  refine ⟨reply.outcome call.query, concludes_iff.mpr rfl, ?_⟩
  intro step h
  exact (concludes_iff.mp h).symm

/-- What the call comes to with the reply is its outcome. -/
theorem outcome_of_concludes {transport : Transport σ} {s : σ} {outcome : Outcome} {read : List Event}
    (hreply : (transport call.path s).1 = reply) (h : call.Concludes reply (outcome, read)) :
    (ask transport call s).1.1 = outcome := by
  show ((transport call.query.path s).1.outcome call.query).1 = outcome
  rw [path_query, hreply, concludes_iff.mp h]

/-! ## 4. Balances and entrypoints -/

theorem asksBalance_or_answers (call : Call) :
    call.AsksBalance ∨ ∀ content, ∃ answer, call.reader.answer content = .ok answer := by
  cases call with
  | balance contract block => exact .inl (.balance contract block)
  | balanceAt contract height => exact .inl (.balanceAt contract height)
  | _ => exact .inr fun content => ⟨_, rfl⟩

theorem answer_balance_error_iff {text : String} {fault : IntegerFault} :
    Reader.balance.answer text = .error fault ↔ Decimal.readInt64 text = .error fault := by
  unfold Reader.balance
  dsimp only
  cases Decimal.readInt64 text <;> simp [Functor.map, Except.map]

/-- **A body is no integer only to the calls that ask for a balance, and to them if it is a string
    without a numeral of a signed word.** -/
theorem concludes_integer_iff {text : String} :
    (∃ fault events, call.Concludes (.body text) (.failed (.integer fault), events)) ↔
      call.AsksBalance ∧ ∃ string, Body.decode Body.string text = .ok string ∧
        ∀ n : Int64, ¬ Decimal.Numeral true string.toList n.toInt := by
  constructor
  · intro ⟨fault, events, h⟩
    cases h with
    | @noInteger _ content _ hdecode hanswer =>
      obtain hasks | hanswers := asksBalance_or_answers call
      · refine ⟨hasks, ?_⟩
        -- what the content is depends on the call, and is a string only for these two
        cases hasks <;>
          exact ⟨content, hdecode, Decimal.readInt64_error_iff.mp
            ⟨fault, answer_balance_error_iff.mp hanswer⟩⟩
      · obtain ⟨answer, ha⟩ := hanswers content
        rw [ha] at hanswer
        cases hanswer
  · intro ⟨hasks, string, hstring, hno⟩
    obtain ⟨fault, hfault⟩ := Decimal.readInt64_error_iff.mpr hno
    have hanswer := answer_balance_error_iff.mpr hfault
    cases hasks with
    | balance contract block => exact ⟨fault, [], .noInteger hstring hanswer⟩
    | balanceAt contract height => exact ⟨fault, [], .noInteger hstring hanswer⟩

/-- **Entrypoints are what the field of the wrapper holds.** -/
theorem concludes_entrypoints_iff {contract : Address} {text : String}
    {types : NameMap Micheline.Expr} :
    (Call.entrypoints contract).Concludes (.body text) (.answered (.entrypoints types), []) ↔
      ∃ field, Body.Wraps "entrypoints" (Json.Document.ofText text).root field ∧
        Body.entrypoints (Body.deepest - 1) field = .ok types ∧
        (Json.Document.ofText text).trailing = false := by
  rw [← Body.decode_wrappedEntrypoints_eq_ok_iff]
  constructor
  · intro h
    cases h with
    | answered hdecode hanswer =>
      cases hanswer
      exact hdecode
  · intro h
    exact .answered h rfl

/-! ## 5. Steps and runs -/

/-- One call: one request for its path, the reply to it, and what the call comes to with that. -/
def Call.Step (transport : Transport σ) (call : Call) (reply : Reply) (s : σ)
    (step : Outcome × List Event) (s' : σ) : Prop :=
  ∃ sent read, transport call.path s = (reply, sent, s') ∧ call.Concludes reply (step.1, read) ∧
    step.2 = sent ++ read

/-- Calls one after the other, each with the reply to its own request. -/
inductive Run (transport : Transport σ) :
    List (Call × Reply) → σ → List (Outcome × List Event) → σ → Prop
  | nil (s : σ) : Run transport [] s [] s
  | cons {call : Call} {reply : Reply} {exchanges : List (Call × Reply)} {s mid s' : σ}
    {step : Outcome × List Event} {steps : List (Outcome × List Event)}
    (hstep : call.Step transport reply s step mid) (hrest : Run transport exchanges mid steps s') :
    Run transport ((call, reply) :: exchanges) s (step :: steps) s'

section Runs

variable {transport : Transport σ} {s s' : σ}

/-- **A call makes one step.** -/
theorem ask_eq_iff {step : Outcome × List Event} :
    ask transport call s = (step, s') ↔ ∃ reply, call.Step transport reply s step s' := by
  unfold ask Call.Step
  rw [path_query]
  constructor
  · intro h
    cases h
    exact ⟨_, _, _, rfl, concludes_iff.mpr rfl, rfl⟩
  · intro ⟨reply, sent, read, hsent, hread, hevents⟩
    have hstep : step = (step.1, sent ++ read) := by rw [← hevents]
    rw [hsent, hstep]
    simp only [concludes_iff.mp hread]

/-- **Calls one after the other make a run.** -/
theorem session_eq_iff_run {calls : List Call} {steps : List (Outcome × List Event)} :
    session transport calls s = (steps, s') ↔
      ∃ exchanges, exchanges.map Prod.fst = calls ∧ Run transport exchanges s steps s' := by
  -- every call starts from what the one before it left of the transport
  induction calls generalizing s steps with
  | nil =>
    constructor
    · intro h
      cases h
      exact ⟨[], rfl, .nil _⟩
    · intro ⟨exchanges, hcalls, hrun⟩
      cases List.map_eq_nil_iff.mp hcalls
      cases hrun
      rfl
  | cons call calls ih =>
    constructor
    · intro h
      cases h
      obtain ⟨reply, hstep⟩ := ask_eq_iff.mp (rfl : ask transport call s = (_, _))
      obtain ⟨exchanges, rfl, hrun⟩ := ih.mp (rfl : session transport calls _ = (_, _))
      exact ⟨(call, reply) :: exchanges, rfl, .cons hstep hrun⟩
    · intro ⟨exchanges, hcalls, hrun⟩
      cases hrun with
      | nil => cases hcalls
      | cons hstep hrest =>
        cases hcalls
        rw [session, ask_eq_iff.mpr ⟨_, hstep⟩]
        simp only [ih.mpr ⟨_, rfl, hrest⟩]

end Runs

/-! ## 6. Prepared replies -/

section Prepared

variable {exchanges : List (Call × Reply)} {asked : List String} {rest : List Reply}

/-- What calls come to, each with a reply of its own. -/
def ConcludeAll (exchanges : List (Call × Reply)) (steps : List (Outcome × List Event)) : Prop :=
  List.Forall₂ (fun exchange step => exchange.1.Concludes exchange.2 step) exchanges steps

theorem concludeAll_iff {steps : List (Outcome × List Event)} : ConcludeAll exchanges steps ↔
    (exchanges.map fun exchange => exchange.2.outcome exchange.1.query) = steps := by
  unfold ConcludeAll
  simp only [concludes_iff]
  rw [← List.forall₂_eq_eq_eq, List.forall₂_map_left_iff]

/-- The paths that calls ask for, the latest first. -/
def pathsOf (exchanges : List (Call × Reply)) : List String :=
  (exchanges.map fun exchange => exchange.1.path).reverse

/-- The prepared reply is taken, and the path of the call is remembered. -/
theorem ask_prepared : ask prepared call ⟨asked, reply :: rest⟩ =
    (reply.outcome call.query, ⟨call.path :: asked, rest⟩) := by
  unfold ask prepared
  rw [path_query]
  rfl

theorem session_prepared :
    session prepared (exchanges.map Prod.fst) ⟨asked, exchanges.map Prod.snd ++ rest⟩ =
      (exchanges.map fun exchange => exchange.2.outcome exchange.1.query,
        ⟨pathsOf exchanges ++ asked, rest⟩) := by
  unfold pathsOf
  induction exchanges generalizing asked with
  | nil => rfl
  | cons exchange exchanges ih =>
    obtain ⟨call, reply⟩ := exchange
    simp only [List.map_cons, List.cons_append, session, ask_prepared, ih, List.reverse_cons,
      List.append_assoc, List.nil_append]

/-- **With prepared replies just the paths of the calls are asked for, in their order, and each call
    comes to what the reply prepared for it says.** -/
theorem session_prepared_eq_iff {steps : List (Outcome × List Event)} {s' : Prepared} :
    session prepared (exchanges.map Prod.fst) ⟨asked, exchanges.map Prod.snd ++ rest⟩ = (steps, s') ↔
      ConcludeAll exchanges steps ∧ s' = ⟨pathsOf exchanges ++ asked, rest⟩ := by
  rw [session_prepared, concludeAll_iff, Prod.mk.injEq]
  exact and_congr_right fun _ => eq_comm

end Prepared

/-- What calls come to where all the replies are prepared. -/
def prepare (exchanges : List (Call × Reply)) : List (Outcome × List Event) :=
  (session prepared (exchanges.map Prod.fst) ⟨[], exchanges.map Prod.snd⟩).1

theorem prepare_eq (exchanges : List (Call × Reply)) :
    prepare exchanges = exchanges.map fun exchange => exchange.2.outcome exchange.1.query := by
  have h : session prepared (exchanges.map Prod.fst) ⟨[], exchanges.map Prod.snd ++ []⟩ = _ :=
    session_prepared
  rw [List.append_nil] at h
  rw [prepare, h]

/-- Calls that went before make no difference. -/
theorem prepare_append (before after : List (Call × Reply)) :
    prepare (before ++ after) = prepare before ++ prepare after := by
  rw [prepare_eq, prepare_eq, prepare_eq, List.map_append]

/-- **On any transport calls come to what they come to with the same replies prepared.** -/
theorem Run.outcomes {transport : Transport σ} {exchanges : List (Call × Reply)} {s s' : σ}
    {steps : List (Outcome × List Event)} (h : Run transport exchanges s steps s') :
    steps.map Prod.fst = (prepare exchanges).map Prod.fst := by
  induction h with
  | nil s => rfl
  | cons hstep hrest ih =>
    obtain ⟨sent, read, _, hconcludes, _⟩ := hstep
    have houtcome := congrArg Prod.fst (concludes_iff.mp hconcludes)
    rw [prepare_eq] at ih ⊢
    simp only [List.map_cons, ih, houtcome]

/-- **Every session is a run: each call asks for one path, its own, and comes to what the reply to
    that says; the outcomes are those of the same replies on any other transport. A call comes to
    one thing only with a reply. A body is no integer to the calls that ask for a balance, if it is a
    string without a numeral of a signed word, and to no others; entrypoints are what the field of
    their wrapper holds. Any replies can be prepared for any calls, and then just the paths of the
    calls are asked for, and nothing is logged but what the calls log. And calls that went before,
    whatever they came to, make no difference.** -/
theorem session_iff_run_of_own_replies :
    (∀ {σ : Type} (transport : Transport σ) (calls : List Call) (s s' : σ)
        (steps : List (Outcome × List Event)), session transport calls s = (steps, s') ↔
      ∃ exchanges, exchanges.map Prod.fst = calls ∧ Run transport exchanges s steps s' ∧
        steps.map Prod.fst = (prepare exchanges).map Prod.fst) ∧
    (∀ (call : Call) (reply : Reply), ∃! step, call.Concludes reply step) ∧
    (∀ (call : Call) (text : String),
      (∃ fault events, call.Concludes (.body text) (.failed (.integer fault), events)) ↔
        call.AsksBalance ∧ ∃ string, Body.decode Body.string text = .ok string ∧
          ∀ n : Int64, ¬ Decimal.Numeral true string.toList n.toInt) ∧
    (∀ (contract : Address) (text : String) (types : NameMap Micheline.Expr),
      (Call.entrypoints contract).Concludes (.body text) (.answered (.entrypoints types), []) ↔
        ∃ field, Body.Wraps "entrypoints" (Json.Document.ofText text).root field ∧
          Body.entrypoints (Body.deepest - 1) field = .ok types ∧
          (Json.Document.ofText text).trailing = false) ∧
    (∀ (exchanges : List (Call × Reply)) (asked : List String) (rest : List Reply)
        (steps : List (Outcome × List Event)) (s' : Prepared),
      session prepared (exchanges.map Prod.fst) ⟨asked, exchanges.map Prod.snd ++ rest⟩ =
          (steps, s') ↔
        ConcludeAll exchanges steps ∧ s' = ⟨pathsOf exchanges ++ asked, rest⟩) ∧
    (∀ before after : List (Call × Reply),
      prepare (before ++ after) = prepare before ++ prepare after) := by
  refine ⟨?_, existsUnique_concludes, fun _ _ => concludes_integer_iff,
    fun _ _ _ => concludes_entrypoints_iff, fun _ _ _ _ _ => session_prepared_eq_iff,
    prepare_append⟩
  intro σ transport calls s s' steps
  rw [session_eq_iff_run]
  constructor
  · intro ⟨exchanges, hcalls, hrun⟩
    exact ⟨exchanges, hcalls, hrun, hrun.outcomes⟩
  · intro ⟨exchanges, hcalls, hrun, _⟩
    exact ⟨exchanges, hcalls, hrun⟩

end Client

end ContractQuery
