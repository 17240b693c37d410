import ContractQuery.Contract.Code
import ContractQuery.Micheline.Json

/-!
# Scripts

The script of an originated contract is its code together with its storage at the time of asking.
As JSON it is an object with the members `code`, the list of sections, and `storage`.
-/

namespace ContractQuery

namespace Contract

open Json (Value)
open Micheline (Expr)

/-- Code and current storage of a contract. -/
structure Script where
  code : Code
  storage : Expr
  deriving DecidableEq

/-- The script of nothing. -/
def Script.empty : Script := ⟨.empty, .invalid⟩

/-- The type of the contract's parameter. -/
def Script.paramType (s : Script) : Expr := s.code.paramType

/-- The type of the contract's storage. -/
def Script.storageType (s : Script) : Expr := s.code.storageType

/-- The code as JSON. -/
def Code.toValue (code : Code) : Value := .array (Micheline.toValues code.toSections)

/-- The script as JSON. -/
def Script.toValue (s : Script) : Value :=
  .object [("code", s.code.toValue), ("storage", s.storage.toValue)]

end Contract

end ContractQuery
