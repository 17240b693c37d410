import ContractQuery.Identifier
import ContractQuery.Text.Decimal

/-!
# Points of the chain

A question to the node is about the chain as it stood at some block. `BlockId` names the block;
`BlockId.text` is its name in a path, and `BlockId.parse` reads names.

* A text is tried as a word (`head`, `genesis`), as a predecessor of head (`head~` and a number), as
  a height, and as a hash, in this order. What begins with `head~` is nothing else.
* Whatever goes wrong, the error shows the whole text.
-/

namespace ContractQuery

/-- A block, by its place in the chain or by its hash. -/
inductive BlockId
  /-- The latest block. -/
  | head
  /-- The first block. -/
  | genesis
  /-- The block of a height. -/
  | level (height : Int64)
  /-- The block of a hash. -/
  | hash (block : BlockHash)
  /-- The block so many blocks before the latest. -/
  | headOffset (offset : UInt32)
  deriving DecidableEq

namespace BlockId

/-- The block a question is about unless it says otherwise. -/
def default : BlockId := .head

/-- The name of the block. -/
def text : BlockId → String
  | .head => "head"
  | .genesis => "genesis"
  | .level height => Decimal.renderInt64 height
  | .hash block => block.text
  | .headOffset offset => String.ofList ("head~".toList ++ Decimal.renderNat offset.toNat)

/-- The offset in the name of a predecessor of head, as it is written. -/
def offsetText? (name : List Char) : Option (List Char) :=
  if "head~".toList.isPrefixOf name then some (name.drop 5) else none

/-- The block of a name. -/
def parse (name : String) : Except ParseError BlockId :=
  if name = "head" then .ok .head
  else if name = "genesis" then .ok .genesis
  else match offsetText? name.toList with
    | some digits =>
      match Decimal.readUInt32 digits with
      | .ok offset => .ok (.headOffset offset)
      | .error _ => .error ⟨.blockId, name⟩
    | none =>
      match Decimal.readInt64 name with
      | .ok height => .ok (.level height)
      | .error _ =>
        match Identifier.parse .blockHash name with
        | .ok block => .ok (.hash block)
        | .error _ => .error ⟨.blockId, name⟩

end BlockId

end ContractQuery
