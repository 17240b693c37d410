import ContractQuery.BigMap
import ContractQuery.Body.Decoder
import ContractQuery.Contract.Script
import ContractQuery.NodeError

/-!
# What bodies hold

The decoders for everything a node answers with: identifiers and lists of them, numbers that travel
as strings, expressions, code and scripts, entrypoints, descriptions of big maps, and the errors of
a refused request.
-/

namespace ContractQuery

namespace Body

open Json (Node Value)
open Micheline (Expr)

/-! ## 1. Strings with a meaning -/

/-- An identifier of a kind. -/
def identifier (kind : Identifier.Kind) : Decoder (Identifier kind) := fun room node => do
  let text ← string room node
  match Identifier.parse kind text with
  | .ok id => return id
  | .error e => .error (.mismatch (.identifier e))

/-- A signed word of 64 bits, in a string. -/
def int64 : Decoder Int64 := fun room node => do
  let text ← string room node
  match Decimal.readInt64 text with
  | .ok n => return n
  | .error fault => .error (.mismatch (.integer fault))

/-! ## 2. Expressions and code -/

/-- An expression. Its value is read in full before it is looked at. -/
def expr : Decoder Expr := fun room node => do
  let v ← readValue room node
  match Expr.ofValue v with
  | .ok e => return e
  | .error why => .error (.mismatch (.expression why))

/-- The code of a contract, from the list of its sections. -/
def code : Decoder Contract.Code := fun room node => do
  let sections ← list expr room node
  match Contract.Code.ofSections sections with
  | .ok code => return code
  | .error e => .error (.mismatch (.codeSection e))

/-- What was met of a script. -/
structure ScriptParts where
  code : Option Contract.Code
  storage : Option Expr

/-- The fields of a script. -/
def scriptFields : List (Field ScriptParts) :=
  [⟨"code", (·.code.isSome), fun met room node => do
      return { met with code := some (← code room node) }⟩,
    ⟨"storage", (·.storage.isSome), fun met room node => do
      return { met with storage := some (← expr room node) }⟩]

/-- The script of what was met. -/
def ScriptParts.finish (met : ScriptParts) : Except Failure Contract.Script := do
  return ⟨← required "code" met.code, ← required "storage" met.storage⟩

/-- A script. -/
def script : Decoder Contract.Script :=
  record .script scriptFields ⟨none, none⟩ ScriptParts.finish

/-! ## 3. Big maps -/

/-- What was met of a big map's description. -/
structure InfoParts where
  keyType : Option Expr
  valueType : Option Expr
  totalBytes : Option Int64

/-- The fields of a big map's description. -/
def infoFields : List (Field InfoParts) :=
  [⟨"key_type", (·.keyType.isSome), fun met room node => do
      return { met with keyType := some (← expr room node) }⟩,
    ⟨"value_type", (·.valueType.isSome), fun met room node => do
      return { met with valueType := some (← expr room node) }⟩,
    ⟨"total_bytes", (·.totalBytes.isSome), fun met room node => do
      return { met with totalBytes := some (← int64 room node) }⟩]

/-- The description of what was met. -/
def InfoParts.finish (met : InfoParts) : Except Failure BigMap.Info := do
  return ⟨← required "key_type" met.keyType, ← required "value_type" met.valueType,
    ← required "total_bytes" met.totalBytes⟩

/-- The description of a big map. -/
def bigMapInfo : Decoder BigMap.Info :=
  record .bigMapInfo infoFields ⟨none, none, none⟩ InfoParts.finish

/-! ## 4. Entrypoints -/

/-- Entrypoints and the types of their parameters. -/
def entrypoints : Decoder (NameMap Expr) := map expr

/-- The entrypoints as the node sends them: in a record of their own. -/
def wrappedEntrypoints : Decoder (NameMap Expr) :=
  record .entrypoints
    [⟨"entrypoints", Option.isSome, fun _ room node => some <$> entrypoints room node⟩]
    none (required "entrypoints")

/-! ## 5. Node errors -/

/-- What was met of a node error. -/
structure NodeErrorParts where
  kind : Option String
  id : Option String
  /-- The other members, the latest first. -/
  rest : List (String × Value)

/-- A member of a node error. -/
def takeNodeErrorMember (room : Nat) (met : NodeErrorParts) (name : String) (node : Node) :
    Except Failure NodeErrorParts :=
  if name = "kind" then
    if met.kind.isSome then .error (.mismatch (.duplicateField name))
    else return { met with kind := some (← string room node) }
  else if name = "id" then
    if met.id.isSome then .error (.mismatch (.duplicateField name))
    else return { met with id := some (← string room node) }
  else return { met with rest := (name, ← readValue room node) :: met.rest }

/-- The node error of what was met. -/
def NodeErrorParts.finish (met : NodeErrorParts) : Except Failure NodeError := do
  let kind ← required "kind" met.kind
  let id ← required "id" met.id
  return ⟨kind, id, NameMap.ofMembers (met.rest.reverse.map fun m => (m.1, m.2.sorted))⟩

/-- A node error. -/
def nodeError : Decoder NodeError := fun room node =>
  match node with
  | .object members => do
    let met ← eachMember (takeNodeErrorMember (← enter room)) ⟨none, none, []⟩ members
    met.finish
  | node => .error (wrongType (.record .nodeError) node)

/-- The errors of a refused request. -/
def nodeErrors : Decoder (List NodeError) := list nodeError

end Body

end ContractQuery
