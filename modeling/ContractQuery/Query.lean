import ContractQuery.BlockId
import ContractQuery.Body.Content

/-!
# Questions to a node

A `Query` is a question that a node answers under a path of its own: about the contracts at a block,
about one contract, or about a big map.

* `Query.path` is the path, relative to the node's root.
* `Query.Answer` is what is answered, and `Query.answer` reads it from a body.
* The balance of a contract travels as a string, which is read in a second step with an error of its
  own (`AnswerFault`).
-/

namespace ContractQuery

/-- A question. -/
inductive Query
  /-- The contracts known at a block. -/
  | contracts (block : BlockId)
  /-- The balance of a contract. -/
  | balance (contract : Address) (block : BlockId)
  /-- The code of a contract and its storage. -/
  | script (contract : Address) (block : BlockId)
  /-- The storage of a contract. -/
  | storage (contract : Address) (block : BlockId)
  /-- The entrypoints of a contract. -/
  | entrypoints (contract : Address) (block : BlockId)
  /-- The hashes of the keys that a big map ever had. -/
  | bigMapKeys (bigMap : Int64) (block : BlockId)
  /-- What a big map keeps under the hash of a key. -/
  | bigMapValue (bigMap : Int64) (key : ExprHash) (block : BlockId)
  /-- The types and the size of a big map. -/
  | bigMapInfo (bigMap : Int64) (block : BlockId)
  deriving DecidableEq

namespace Query

/-! ## 1. Paths -/

/-- The path of the contracts at a block. -/
def contractsPath (block : BlockId) : String :=
  "chains/main/blocks/" ++ block.text ++ "/context/contracts"

/-- The path of something about a contract. -/
def contractPath (block : BlockId) (contract : Address) (item : String) : String :=
  contractsPath block ++ "/" ++ contract.text ++ "/" ++ item

/-- The path of a big map. -/
def bigMapPath (block : BlockId) (bigMap : Int64) : String :=
  "chains/main/blocks/" ++ block.text ++ "/context/raw/json/big_maps/index/"
    ++ Decimal.renderInt64 bigMap

/-- The path under which a question is answered. -/
def path : Query → String
  | .contracts block => contractsPath block
  | .balance contract block => contractPath block contract "balance"
  | .script contract block => contractPath block contract "script"
  | .storage contract block => contractPath block contract "storage"
  | .entrypoints contract block => contractPath block contract "entrypoints"
  | .bigMapKeys bigMap block => bigMapPath block bigMap ++ "/contents"
  | .bigMapValue bigMap key block => bigMapPath block bigMap ++ "/contents/" ++ key.text
  | .bigMapInfo bigMap block => bigMapPath block bigMap

/-! ## 2. Answers -/

/-- What is answered to a question. -/
inductive Answer
  | contracts (all : List Address)
  /-- The balance, in millionths of the coin. -/
  | balance (amount : Int64)
  | script (script : Contract.Script)
  | storage (value : Micheline.Expr)
  | entrypoints (types : NameMap Micheline.Expr)
  | bigMapKeys (hashes : List ExprHash)
  | bigMapValue (value : Micheline.Expr)
  | bigMapInfo (info : BigMap.Info)

/-- Why a body is no answer. -/
inductive AnswerFault
  /-- It does not decode. -/
  | body (failure : Body.Failure)
  /-- It is a string, but no balance. -/
  | balance (fault : IntegerFault)

/-- A body that is read in one step. -/
def read {α : Type} (decoder : Body.Decoder α) (make : α → Answer) (body : String) :
    Except AnswerFault Answer :=
  match Body.decode decoder body with
  | .ok a => .ok (make a)
  | .error failure => .error (.body failure)

/-- The answer in a body. -/
def answer (query : Query) (body : String) : Except AnswerFault Answer :=
  match query with
  | .contracts _ => read (Body.list (Body.identifier .address)) .contracts body
  | .balance .. =>
    match Body.decode Body.string body with
    | .error failure => .error (.body failure)
    | .ok text =>
      match Decimal.readInt64 text with
      | .ok amount => .ok (.balance amount)
      | .error fault => .error (.balance fault)
  | .script .. => read Body.script .script body
  | .storage .. => read Body.expr .storage body
  | .entrypoints .. => read Body.wrappedEntrypoints .entrypoints body
  | .bigMapKeys .. => read (Body.list (Body.identifier .exprHash)) .bigMapKeys body
  | .bigMapValue .. => read Body.expr .bigMapValue body
  | .bigMapInfo .. => read Body.bigMapInfo .bigMapInfo body

end Query

end ContractQuery
