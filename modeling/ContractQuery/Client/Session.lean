import ContractQuery.Client.Error
import ContractQuery.Query

/-!
# The client

A client asks a node through a `Transport`, one request for each call.

* `Call` is what can be asked for. Many calls come in variants, at a block, at a height or at the
  head of the chain; `Call.query` is the question they stand for.
* `Transport` turns the path of a request into a `Reply` and the events it logs. It may remember
  things from one request to the next.
* `Client.ask` makes one call. `Outcome` is what becomes of it, and `Client.session` makes calls one
  after the other.
-/

namespace ContractQuery

namespace Client

/-! ## 1. Calls -/

/-- What a client can be asked for. -/
inductive Call
  | contracts (block : BlockId)
  | contractsAt (height : Int64)
  | balance (contract : Address) (block : BlockId)
  | balanceAt (contract : Address) (height : Int64)
  | script (contract : Address)
  | storage (contract : Address) (block : BlockId)
  | storageAt (contract : Address) (height : Int64)
  | entrypoints (contract : Address)
  | bigMapKeys (bigMap : Int64) (block : BlockId)
  | activeBigMapKeys (bigMap : Int64)
  | bigMapValue (bigMap : Int64) (key : ExprHash) (block : BlockId)
  | activeBigMapValue (bigMap : Int64) (key : ExprHash)
  | bigMapValueAt (bigMap : Int64) (key : ExprHash) (height : Int64)
  | bigMapInfo (bigMap : Int64) (block : BlockId)
  | activeBigMapInfo (bigMap : Int64)

/-- The question that a call asks. A height is the block of that level; what is active is what is
    there at the head. -/
def Call.query : Call → Query
  | .contracts block => .contracts block
  | .contractsAt height => .contracts (.level height)
  | .balance contract block => .balance contract block
  | .balanceAt contract height => .balance contract (.level height)
  | .script contract => .script contract .head
  | .storage contract block => .storage contract block
  | .storageAt contract height => .storage contract (.level height)
  | .entrypoints contract => .entrypoints contract .head
  | .bigMapKeys bigMap block => .bigMapKeys bigMap block
  | .activeBigMapKeys bigMap => .bigMapKeys bigMap .head
  | .bigMapValue bigMap key block => .bigMapValue bigMap key block
  | .activeBigMapValue bigMap key => .bigMapValue bigMap key .head
  | .bigMapValueAt bigMap key height => .bigMapValue bigMap key (.level height)
  | .bigMapInfo bigMap block => .bigMapInfo bigMap block
  | .activeBigMapInfo bigMap => .bigMapInfo bigMap .head

/-! ## 2. Events -/

/-- What is logged. -/
inductive Event
  /-- A request is made. -/
  | request (url : String)
  /-- A response came, without success. -/
  | refused (url : String) (code : Nat)
  /-- A body does not decode. -/
  | undecoded (path : String)
  deriving DecidableEq

/-- How much an event matters. -/
inductive Level
  | trace
  | debug
  | warn

/-- The name of a level. -/
def Level.text : Level → String
  | .trace => "TRACE"
  | .debug => "DEBUG"
  | .warn => "WARN"

/-- How much the event matters. -/
def Event.level : Event → Level
  | .request _ => .debug
  | .refused .. => .warn
  | .undecoded _ => .trace

/-- The event in words. -/
def Event.message : Event → String
  | .request _ => "GET"
  | .refused .. => "request failed"
  | .undecoded _ => "failed to decode response"

/-- What the event is about, field by field. -/
def Event.fields : Event → List (String × String)
  | .request url => [("url", url)]
  | .refused url code => [("url", url), ("status", toString code)]
  | .undecoded path => [("path", path)]

/-! ## 3. Transports -/

/-- What a transport gives for a request. -/
inductive Reply
  /-- The body of a response with success. -/
  | body (text : String)
  | failed (error : ClientError)
  /-- Nothing, however long one waits. -/
  | never

/-- A way to a node: from a path, and from what it remembers, to a reply, the events logged, and what
    it remembers then. -/
abbrev Transport (σ : Type) := (path : String) → σ → Reply × List Event × σ

/-- What a transport with prepared replies remembers: the paths it was asked for, the latest first,
    and the replies it still has. -/
structure Prepared where
  asked : List String
  replies : List Reply

/-- A transport that gives prepared replies, and none when they are used up. -/
def prepared : Transport Prepared := fun path s =>
  match s.replies with
  | [] => (.never, [], ⟨path :: s.asked, []⟩)
  | reply :: rest => (reply, [], ⟨path :: s.asked, rest⟩)

/-! ## 4. Asking -/

/-- What becomes of a call. -/
inductive Outcome
  | answered (answer : Query.Answer)
  | failed (error : ClientError)
  /-- The call still waits. -/
  | pending

/-- The outcome of a reply to a question, and the events logged. -/
def Reply.outcome (query : Query) : Reply → Outcome × List Event
  | .never => (.pending, [])
  | .failed error => (.failed error, [])
  | .body text =>
    match query.answer text with
    | .ok answer => (.answered answer, [])
    | .error (.body failure) => (.failed (.body failure), [.undecoded query.path])
    | .error (.balance fault) => (.failed (.integer fault), [])

/-- One call: its outcome, the events logged, and what the transport remembers then. -/
def ask {σ : Type} (transport : Transport σ) (call : Call) (s : σ) : (Outcome × List Event) × σ :=
  let (reply, sent, s) := transport call.query.path s
  let (outcome, read) := reply.outcome call.query
  ((outcome, sent ++ read), s)

/-- Calls one after the other. -/
def session {σ : Type} (transport : Transport σ) : List Call → σ → List (Outcome × List Event) × σ
  | [], s => ([], s)
  | call :: calls, s =>
    let (step, s) := ask transport call s
    let (steps, s) := session transport calls s
    (step :: steps, s)

end Client

end ContractQuery
