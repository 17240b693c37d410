import ContractQuery.Http.Remote
import ContractQuery.Proofs.Body.Lists
import ContractQuery.Proofs.Client.Session
import ContractQuery.Proofs.Text.Utf8

/-!
# What a response comes to

Every response is of one of three classes, by its status and by the whole of its body:

* a success gives the body as it is, also one that lists errors;
* else a body that reports errors of the node (`Reports`) gives all of them, in their order. It is one
  list with nothing behind it, it is not empty, and every entry of it is an error of the node;
* else the status and the body are kept as they are. One entry that is no error is enough.

`Classified` has a rule for each. A remote gives a response the class it has and no other, and a call
to which there is a response without success fails with its status, whatever is called for
(**`response_iff_classified`**). The body is what its bytes are read as; where they are the bytes of a
text, that text.
-/

namespace ContractQuery

namespace Http

open Client (Call Event Reply)
open Json (Document Items Node Value)

variable {σ : Type} {code : Nat} {body : String}

/-! ## 1. Classes -/

/-- The status says that the request succeeded. -/
def Succeeds (code : Nat) : Prop := 200 ≤ code ∧ code < 300

instance (code : Nat) : Decidable (Succeeds code) := inferInstanceAs (Decidable (_ ∧ _))

/-- The body is a list of errors of the node, at least one, and nothing else. -/
def Reports (body : String) (errors : List NodeError) : Prop :=
  errors ≠ [] ∧ ∃ entries, Document.ofText body = ⟨.array (.ofList entries), false⟩ ∧
    List.Forall₂ (fun entry error => Body.nodeError (Body.deepest - 1) entry = .ok error)
      entries errors

/-- What a response has to come to. -/
inductive Classified (code : Nat) (body : String) : Reply → Prop
  | success (h : Succeeds code) : Classified code body (.body body)
  | explained {errors : List NodeError} (h : ¬ Succeeds code) (hreports : Reports body errors) :
    Classified code body (.failed (.node code errors))
  | unexplained (h : ¬ Succeeds code) (hnone : ∀ errors, ¬ Reports body errors) :
    Classified code body (.failed (.status code body))

theorem isSuccess_iff : isSuccess code = true ↔ Succeeds code := by
  simp only [isSuccess, Succeeds, Bool.and_eq_true, decide_eq_true_eq]
  omega

theorem reports_iff {errors : List NodeError} :
    Reports body errors ↔ errors ≠ [] ∧ Body.decode Body.nodeErrors body = .ok errors :=
  and_congr_right fun _ => Body.decode_list_eq_ok_iff.symm

/-- An error without more to it than its class and its name. -/
theorem nodeError_outline (room : Nat) (kind id : String) :
    Body.nodeError (room + 1) (Value.object [("kind", .string kind), ("id", .string id)]).outline =
      .ok ⟨kind, id, .empty⟩ := by
  simp only [Value.outline, Json.outlineMembers, Body.nodeError, Body.enter, Body.eachMember,
    Body.readLiteral_literalOf, Body.takeNodeErrorMember, Body.string]
  rfl

/-- A list of one such error reports it. -/
theorem reports_text (kind id : String) :
    Reports (Value.array [.object [("kind", .string kind), ("id", .string id)]]).text
      [⟨kind, id, .empty⟩] := by
  refine ⟨nofun, [_], Json.ofText_text ?_, .cons (nodeError_outline _ kind id) .nil⟩
  exact .array (by simpa using .object (by simpa using ⟨.string _, .string _⟩))

/-- A list with such an error and something that is none reports nothing. -/
theorem not_reports_text (kind id : String) (errors : List NodeError) :
    ¬ Reports (Value.array [.object [("kind", .string kind), ("id", .string id)], .null]).text
      errors := by
  intro ⟨_, entries, hdocument, hall⟩
  rw [Json.ofText_text (.array (by simpa using ⟨.object (by simpa using ⟨.string _, .string _⟩), .null⟩))]
    at hdocument
  simp only [Value.outline, Json.outlineItems, Document.mk.injEq, Node.array.injEq, and_true]
    at hdocument
  -- the entry at fault is the second one
  cases hall with
  | nil => simp [Items.ofList] at hdocument
  | cons _ hall =>
    cases hall with
    | nil => simp [Items.ofList] at hdocument
    | cons hentry _ =>
      simp only [Items.ofList, Items.item.injEq] at hdocument
      obtain ⟨-, hnull, -⟩ := hdocument
      rw [← hnull] at hentry
      cases hentry

theorem Classified.eq_failed {reply : Reply} (h : Classified code body reply)
    (hno : ¬ Succeeds code) : ∃ error, reply = .failed error := by
  cases h with
  | success hsuccess => exact absurd hsuccess hno
  | explained => exact ⟨_, rfl⟩
  | unexplained => exact ⟨_, rfl⟩

/-- An error of the client has the status, and comes neither of a body that was read as an answer nor
    of an integer. -/
theorem Classified.of_failed {error : ClientError} (h : Classified code body (.failed error)) :
    error.code? = some code ∧ (∀ failure, error ≠ .body failure) ∧
      (∀ fault, error ≠ .integer fault) := by
  cases h <;> exact ⟨rfl, fun _ => nofun, fun _ => nofun⟩

/-! ## 2. Refusals -/

theorem refusal_of_reports {errors : List NodeError} (h : Reports body errors) :
    refusal code body = .node code errors := by
  obtain ⟨hne, hdecode⟩ := reports_iff.mp h
  unfold refusal
  rw [hdecode]
  cases errors with
  | nil => exact absurd rfl hne
  | cons e es => rfl

theorem refusal_of_not_reports (h : ∀ errors, ¬ Reports body errors) :
    refusal code body = .status code body := by
  unfold refusal
  split
  · rename_i e es hdecode
    exact absurd (reports_iff.mpr ⟨List.cons_ne_nil e es, hdecode⟩) (h _)
  · rfl

/-- A refusal is explained by the errors that the body reports, or else keeps the body. -/
theorem refusal_classified (h : ¬ Succeeds code) :
    Classified code body (.failed (refusal code body)) := by
  by_cases hreports : ∃ errors, Reports body errors
  · obtain ⟨errors, hreports⟩ := hreports
    rw [refusal_of_reports hreports]
    exact .explained h hreports
  · rw [refusal_of_not_reports (not_exists.mp hreports)]
    exact .unexplained h (not_exists.mp hreports)

/-- A response is of one class only. -/
theorem Classified.unique {reply reply' : Reply} (h : Classified code body reply)
    (h' : Classified code body reply') : reply = reply' := by
  cases h with
  | success hsuccess =>
    cases h' with
    | success => rfl
    | explained hno => exact absurd hsuccess hno
    | unexplained hno => exact absurd hsuccess hno
  | explained hno hreports =>
    cases h' with
    | success hsuccess => exact absurd hsuccess hno
    | explained _ hreports' =>
      cases (reports_iff.mp hreports).2.symm.trans (reports_iff.mp hreports').2
      rfl
    | unexplained _ hnone => exact absurd hreports (hnone _)
  | unexplained hno hnone =>
    cases h' with
    | success hsuccess => exact absurd hsuccess hno
    | explained _ hreports => exact absurd hreports (hnone _)
    | unexplained => rfl

theorem reply_response_classified (timeout : Option Nat) (url : String) (code : Nat)
    (bytes : List UInt8) :
    Classified code (Utf8.decodeLossy bytes)
      ((Exchange.response code bytes).reply timeout url).1 := by
  unfold Exchange.reply
  dsimp only
  split
  · rename_i hsuccess
    exact .success (isSuccess_iff.mp hsuccess)
  · rename_i hno
    exact refusal_classified fun hsuccess => hno (isSuccess_iff.mpr hsuccess)

theorem reply_ne_node_nil (exchange : Exchange) (timeout : Option Nat) (url : String) (code : Nat) :
    (exchange.reply timeout url).1 ≠ .failed (.node code []) := by
  intro h
  cases exchange with
  | unreachable => cases h
  | cut => cases h
  | silent =>
    simp only [Exchange.reply] at h
    split at h <;> cases h
  | response code' bytes =>
    have hclass := reply_response_classified timeout url code' bytes
    rw [h] at hclass
    cases hclass with
    | explained _ hreports => exact hreports.1 rfl

/-! ## 3. Responses to a remote -/

/-- The remote gets a response to its request for a path: the address can be used, and the network
    lets the response through. -/
def Remote.Receives (remote : Remote) (network : Network σ) (path : String) (s : σ) (code : Nat)
    (bytes : List UInt8) (s' : σ) : Prop :=
  Url.isUsable (remote.url path) = true ∧
    network ⟨remote.url path, remote.userAgent⟩ s = (.response code bytes, s')

section Responses

variable {remote : Remote} {network : Network σ} {path : String} {s s' : σ} {bytes : List UInt8}

theorem transport_of_receives (h : remote.Receives network path s code bytes s') :
    remote.transport network path s =
      let replied := (Exchange.response code bytes).reply remote.timeout (remote.url path)
      (replied.1, .request (remote.url path) :: replied.2, s') := by
  obtain ⟨husable, hnetwork⟩ := h
  simp only [Remote.transport, husable, hnetwork, ↓reduceIte]

/-- **The transport gives a response the class that it has.** -/
theorem transport_classified (h : remote.Receives network path s code bytes s') :
    ∃ reply events, remote.transport network path s = (reply, events, s') ∧
      Classified code (Utf8.decodeLossy bytes) reply :=
  ⟨_, _, transport_of_receives h,
    reply_response_classified remote.timeout (remote.url path) code bytes⟩

/-- **A call to which there is a response without success fails with that response.** -/
theorem ask_classified {call : Call} (h : remote.Receives network call.path s code bytes s')
    (hno : ¬ Succeeds code) :
    ∃ error events, Client.ask (remote.transport network) call s = ((.failed error, events), s') ∧
      Classified code (Utf8.decodeLossy bytes) (.failed error) := by
  obtain ⟨reply, sent, htransport, hclass⟩ := transport_classified h
  obtain ⟨error, rfl⟩ := hclass.eq_failed hno
  exact ⟨error, _, Client.ask_eq_iff.mpr ⟨_, sent, [], htransport, .failed error, rfl⟩, hclass⟩

/-- An error of the node is never without a detail, whatever the network does. -/
theorem transport_ne_node_nil (remote : Remote) (network : Network σ) (path : String) (s : σ)
    (code : Nat) : (remote.transport network path s).1 ≠ .failed (.node code []) := by
  unfold Remote.transport
  dsimp only
  split
  · exact reply_ne_node_nil _ remote.timeout (remote.url path) code
  · nofun

end Responses

/-- **A response comes to what its class is, and to nothing else. So does the reply that a remote
    makes of one, and a call to which there is a response without success fails with an error of its
    status, which is neither of a body that was read as an answer nor of an integer; and errors of the
    node are never an empty list. Where the bytes are those of a text, the body is that text.** -/
theorem response_iff_classified :
    (∀ (timeout : Option Nat) (url : String) (code : Nat) (bytes : List UInt8) (reply : Reply),
      ((Exchange.response code bytes).reply timeout url).1 = reply ↔
        Classified code (Utf8.decodeLossy bytes) reply) ∧
    (∀ {σ : Type} {remote : Remote} {network : Network σ} {path : String} {s s' : σ} {code : Nat}
      {bytes : List UInt8}, remote.Receives network path s code bytes s' →
      ∃ reply events, remote.transport network path s = (reply, events, s') ∧
        Classified code (Utf8.decodeLossy bytes) reply) ∧
    (∀ {σ : Type} {remote : Remote} {network : Network σ} {call : Call} {s s' : σ} {code : Nat}
      {bytes : List UInt8}, remote.Receives network call.path s code bytes s' → ¬ Succeeds code →
      ∃ error events,
        Client.ask (remote.transport network) call s = ((.failed error, events), s') ∧
        Classified code (Utf8.decodeLossy bytes) (.failed error) ∧ error.code? = some code ∧
        (∀ failure, error ≠ .body failure) ∧ (∀ fault, error ≠ .integer fault)) ∧
    (∀ {σ : Type} (remote : Remote) (network : Network σ) (path : String) (s : σ) (code : Nat),
      (remote.transport network path s).1 ≠ .failed (.node code [])) ∧
    (∀ (timeout : Option Nat) (url : String) (code : Nat) (text : String) (reply : Reply),
      ((Exchange.response code (Text.bytes text)).reply timeout url).1 = reply ↔
        Classified code text reply) := by
  have hreply : ∀ (timeout : Option Nat) (url : String) (code : Nat) (bytes : List UInt8)
      (reply : Reply), ((Exchange.response code bytes).reply timeout url).1 = reply ↔
        Classified code (Utf8.decodeLossy bytes) reply := by
    intro timeout url code bytes reply
    have hclass := reply_response_classified timeout url code bytes
    constructor
    · intro h
      rwa [h] at hclass
    · intro h
      exact hclass.unique h
  refine ⟨hreply, transport_classified, ?_, transport_ne_node_nil, ?_⟩
  · intro σ remote network call s s' code bytes h hno
    obtain ⟨error, events, hask, hclass⟩ := ask_classified h hno
    exact ⟨error, events, hask, hclass, hclass.of_failed⟩
  · intro timeout url code text reply
    rw [hreply, Utf8.decodeLossy_bytes]

/-- A node that does not know a block, and says so; one that answers, with characters of two, three and
    four bytes; and one that fails with a list of which an entry is no error. -/
theorem response_iff_classified_at_not_found :
    let error : NodeError := ⟨"permanent", "block.not_found", .empty⟩
    let body := "[\x7b\"kind\":\"permanent\",\"id\":\"block.not_found\"\x7d]"
    let answer := "\"é ☃ 𝄞\""
    let mixed := "[\x7b\"kind\":\"permanent\",\"id\":\"é\"\x7d,null]"
    let remote := Remote.at "http://[::1]:8732"
    let path := (Call.contracts .head).path
    let network : Nat → String → Network Unit := fun code text _ s =>
      (.response code (Text.bytes text), s)
    (∀ code text, remote.Receives (network code text) path () code (Text.bytes text) ()) ∧
    (¬ Succeeds 404 ∧ Reports body [error] ∧
      ∃ events, Client.ask (remote.transport (network 404 body)) (.contracts .head) () =
        ((.failed (.node 404 [error]), events), ())) ∧
    (Succeeds 200 ∧
      ∃ events, remote.transport (network 200 answer) path () = (.body answer, events, ())) ∧
    (¬ Succeeds 502 ∧ (∀ errors, ¬ Reports mixed errors) ∧
      ∃ events, Client.ask (remote.transport (network 502 mixed)) (.contracts .head) () =
        ((.failed (.status 502 mixed), events), ())) := by
  intro error body answer mixed remote path network
  have hreceives : ∀ code text,
      remote.Receives (network code text) path () code (Text.bytes text) () :=
    fun code text => ⟨by decide +kernel, rfl⟩
  have hreports : Reports body [error] := by
    have htext : body = (Value.array
        [.object [("kind", .string error.kind), ("id", .string error.id)]]).text := by
      decide +kernel
    exact htext ▸ reports_text error.kind error.id
  have hmixed : ∀ errors, ¬ Reports mixed errors := by
    have htext : mixed = (Value.array
        [.object [("kind", .string "permanent"), ("id", .string "é")], .null]).text := by
      decide +kernel
    exact htext ▸ not_reports_text "permanent" "é"
  have hsuccess : Succeeds 200 := by decide
  have hmissing : ¬ Succeeds 404 := by decide
  have hbroken : ¬ Succeeds 502 := by decide
  refine ⟨hreceives, ⟨hmissing, hreports, ?_⟩, ⟨hsuccess, ?_⟩, hbroken, hmixed, ?_⟩
  · obtain ⟨_, events, hask, hclass, -⟩ :=
      response_iff_classified.2.2.1 (hreceives 404 body) hmissing
    rw [Utf8.decodeLossy_bytes] at hclass
    cases hclass.unique (.explained hmissing hreports)
    exact ⟨events, hask⟩
  · obtain ⟨_, events, htransport, hclass⟩ := response_iff_classified.2.1 (hreceives 200 answer)
    rw [Utf8.decodeLossy_bytes] at hclass
    cases hclass.unique (.success hsuccess)
    exact ⟨events, htransport⟩
  · obtain ⟨_, events, hask, hclass, -⟩ :=
      response_iff_classified.2.2.1 (hreceives 502 mixed) hbroken
    rw [Utf8.decodeLossy_bytes] at hclass
    cases hclass.unique (.unexplained hbroken hmixed)
    exact ⟨events, hask⟩

end Http

end ContractQuery
