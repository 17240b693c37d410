import ContractQuery.Contract.Code
import ContractQuery.Identifier
import ContractQuery.Json.Outline
import ContractQuery.Json.Number
import ContractQuery.Micheline.Json

/-!
# What can be wrong with a body

A body is read for something: a list of addresses, a script. It fails in one of three ways
(`Failure`): it ends too early, it is not JSON, or it is JSON but does not say what was asked for.
Only the last is told in detail (`Mismatch`).
-/

namespace ContractQuery

namespace Body

open Json (Number Stop)

/-! ## 1. What was expected and what was there -/

/-- An object with known members, in the order in which their values may also stand in an array. -/
structure Record where
  name : String
  fields : List String

/-- The record of a script. -/
def Record.script : Record := ⟨"Script", ["code", "storage"]⟩

/-- The record of a big map's description. -/
def Record.bigMapInfo : Record := ⟨"BigmapInfo", ["key_type", "value_type", "total_bytes"]⟩

/-- The record around the entrypoints. -/
def Record.entrypoints : Record := ⟨"EntrypointsResponse", ["entrypoints"]⟩

/-- The record of a node error. -/
def Record.nodeError : Record := ⟨"RpcError", ["kind", "id"]⟩

/-- What kind of value was to come. -/
inductive Wanted
  | string
  | sequence
  | map
  | record (r : Record)

/-- The kind of value in words. -/
def Wanted.text : Wanted → String
  | .string => "a string"
  | .sequence => "a sequence"
  | .map => "a map"
  | .record r => "struct " ++ r.name

/-- What came in its place. -/
inductive Found
  | null
  | bool (value : Bool)
  | number (value : Number)
  | string (text : String)
  | sequence
  | map

/-- What came, in words. -/
def Found.text : Found → String
  | .null => "null"
  | .bool true => "boolean `true`"
  | .bool false => "boolean `false`"
  | .number (.whole n) => "integer `" ++ String.ofList (Number.whole n).text ++ "`"
  | .number (.real s m) => "floating point `" ++ String.ofList (Number.real s m).text ++ "`"
  | .string text => "string " ++ Quoted.render text
  | .sequence => "sequence"
  | .map => "map"

/-! ## 2. Mismatches -/

/-- In what a JSON text differs from what was asked for. -/
inductive Mismatch
  | wrongType (found : Found) (wanted : Wanted)
  | missingField (name : String)
  | duplicateField (name : String)
  /-- An array that should hold the values of a record holds only so many. -/
  | tooFewItems (count : Nat) (r : Record)
  | identifier (e : ParseError)
  | integer (fault : IntegerFault)
  | expression (why : Micheline.Rejection)
  | codeSection (e : Contract.UnexpectedSection)

/-- A number of things, counted. -/
def counted (n : Nat) (thing : String) : String :=
  toString n ++ " " ++ thing ++ (if n = 1 then "" else "s")

/-- The mismatch in words. -/
def Mismatch.message : Mismatch → String
  | .wrongType found wanted => "invalid type: " ++ found.text ++ ", expected " ++ wanted.text
  | .missingField name => "missing field `" ++ name ++ "`"
  | .duplicateField name => "duplicate field `" ++ name ++ "`"
  | .tooFewItems count r =>
    "invalid length " ++ toString count ++ ", expected struct " ++ r.name ++ " with "
      ++ counted r.fields.length "element"
  | .identifier e => e.message
  | .integer fault => fault.message
  | .expression why => why.message
  | .codeSection e => e.message

/-! ## 3. Failures -/

/-- Why a body was not understood. -/
inductive Failure
  /-- The text ends inside a value. -/
  | cutShort
  /-- The text is not JSON, or beyond what is read of JSON. -/
  | malformed
  | mismatch (what : Mismatch)

/-- The failure of a place where reading stopped. -/
def Failure.ofStop : Stop → Failure
  | .cutShort => .cutShort
  | .malformed => .malformed

end Body

end ContractQuery
