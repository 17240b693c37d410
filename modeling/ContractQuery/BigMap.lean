import ContractQuery.Micheline.Json

/-!
# Big maps

A big map is named by a number. What the node says about one is the types of its keys and values and
the bytes it takes in storage; the number of bytes travels as a string.
-/

namespace ContractQuery

namespace BigMap

open Json (Value)
open Micheline (Expr)

/-- The types and the size of a big map. -/
structure Info where
  keyType : Expr
  valueType : Expr
  totalBytes : Int64
  deriving DecidableEq

/-- The description as JSON. -/
def Info.toValue (info : Info) : Value :=
  .object [("key_type", info.keyType.toValue), ("value_type", info.valueType.toValue),
    ("total_bytes", .string (Decimal.renderInt64 info.totalBytes))]

end BigMap

end ContractQuery
