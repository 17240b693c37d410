import ContractQuery.Json.Value

/-!
# Errors of the node

A node that refuses a request answers with a list of errors. Each has a class (`kind`), a name
(`id`), and whatever else belongs to it (`rest`).
-/

namespace ContractQuery

/-- An error that the node reports. -/
structure NodeError where
  /-- The class: `temporary`, `permanent` or `branch`. -/
  kind : String
  id : String
  /-- The other members, in order. -/
  rest : NameMap Json.Value

namespace NodeError

/-- The error in words. -/
def message (e : NodeError) : String := e.kind ++ " error " ++ e.id

/-- Asking again may help. -/
def isTemporary (e : NodeError) : Bool := e.kind = "temporary"

/-- Asking again never helps. -/
def isPermanent (e : NodeError) : Bool := e.kind = "permanent"

/-- The error holds on the branch in question only. -/
def isBranch (e : NodeError) : Bool := e.kind = "branch"

/-- The other members as JSON. -/
def restValue (e : NodeError) : Json.Value := .object e.rest.entries

end NodeError

end ContractQuery
