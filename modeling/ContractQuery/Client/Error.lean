import ContractQuery.Body.Failure
import ContractQuery.NodeError

/-!
# Errors of the client

Whatever goes wrong on the way from a question to its answer is a `ClientError`. A failed request
that the node explained carries the node's errors; one that it did not explain carries the body.
-/

namespace ContractQuery

/-- Why an exchange with a node came to no response. -/
inductive ExchangeFault
  /-- The request could not be made: it has no usable address, or a header that cannot be sent. -/
  | badRequest
  /-- No response came, or only a part of one. -/
  | broken
  /-- The response did not come in time. -/
  | timedOut
  deriving DecidableEq

/-- Why a question has no answer. -/
inductive ClientError
  | exchange (fault : ExchangeFault)
  /-- A response without success, as it came. -/
  | status (code : Nat) (body : String)
  /-- A response without success that lists the node's errors. -/
  | node (code : Nat) (errors : List NodeError)
  /-- A body that does not decode. -/
  | body (failure : Body.Failure)
  /-- A string that is no integer. -/
  | integer (fault : IntegerFault)
  /-- A text that is no identifier. -/
  | parse (error : ParseError)

namespace ClientError

/-- The errors the node reported. -/
def nodeErrors : ClientError → List NodeError
  | .node _ errors => errors
  | _ => []

/-- The status of a response without success. -/
def code? : ClientError → Option Nat
  | .status code _ => some code
  | .node code _ => some code
  | _ => none

/-- The first error of a list in words. -/
def firstMessage (errors : List NodeError) : String :=
  match errors with
  | e :: _ => e.message
  | [] => "no detail"

/-- The error in words, where the words are this library's. -/
def message? : ClientError → Option String
  | .exchange _ => none
  | .status code text => some ("HTTP status " ++ toString code ++ ": " ++ text)
  | .node code errors =>
    some ("RPC error (HTTP status " ++ toString code ++ "): " ++ firstMessage errors)
  | .body (.mismatch what) => some what.message
  | .body _ => none
  | .integer fault => some ("integer parse error: " ++ fault.message)
  | .parse e => some e.message

end ClientError

end ContractQuery
