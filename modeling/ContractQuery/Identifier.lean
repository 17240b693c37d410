import ContractQuery.Base58
import ContractQuery.Json.Value
import ContractQuery.Text.Quoted

/-!
# Identifiers of the chain

Addresses, hashes of script expressions and hashes of blocks are checked base 58 texts. What the
bytes are is told by a few bytes in front of them, and these are chosen so that all texts of one
`Version` begin alike: an originated contract's address begins with `KT1`.

* `Identifier.Kind` lists the versions of a kind and how many bytes they carry.
* `Identifier.Kind.accepts` decides which texts are identifiers: one beginning the kind knows,
  followed by the right number of digits, and bytes that are a version's and a payload.
* `Identifier kind` is a text together with the proof that it is one. `Identifier.parse` keeps the text
  as it is, so an identifier shows what it was read from.
-/

namespace ContractQuery

namespace Identifier

/-! ## 1. Kinds -/

/-- What an identifier names. -/
inductive Kind
  | address
  | exprHash
  | blockHash
  deriving DecidableEq

/-- How the identifiers of one version begin: as text, and as bytes. -/
structure Version where
  opening : String
  bytes : List UInt8

/-- The versions of a kind. -/
def Kind.versions : Kind → List Version
  | .address =>
    [⟨"tz1", [6, 161, 159]⟩, ⟨"tz2", [6, 161, 161]⟩, ⟨"tz3", [6, 161, 164]⟩, ⟨"tz4", [6, 161, 166]⟩,
      ⟨"KT1", [2, 90, 121]⟩, ⟨"sr1", [6, 124, 117]⟩, ⟨"txr1", [1, 128, 120, 31]⟩]
  | .exprHash => [⟨"expr", [13, 44, 64, 27]⟩]
  | .blockHash => [⟨"B", [1, 52]⟩]

/-- The number of characters after the opening. -/
def Kind.tailLength : Kind → Nat
  | .address => 33
  | .exprHash => 50
  | .blockHash => 50

/-- The number of bytes after the version's. -/
def Kind.payloadSize : Kind → Nat
  | .address => 20
  | .exprHash => 32
  | .blockHash => 32

/-- The name of a kind. -/
def Kind.label : Kind → String
  | .address => "address"
  | .exprHash => "expression hash"
  | .blockHash => "block hash"

/-! ## 2. Texts that are identifiers -/

/-- The text begins like this version, and so many digits follow. -/
def Version.fits (v : Version) (tailLength : Nat) (text : List Char) : Bool :=
  let tail := text.drop v.opening.length
  v.opening.toList.isPrefixOf text && tail.length = tailLength
    && tail.all fun c => (Base58.digitOf? c).isSome

/-- The bytes are this version's, and so many more. -/
def Version.carries (v : Version) (payloadSize : Nat) (bytes : List UInt8) : Bool :=
  v.bytes.isPrefixOf bytes && bytes.length = v.bytes.length + payloadSize

/-- The text looks like an identifier of the kind. -/
def Kind.looksRight (kind : Kind) (text : List Char) : Bool :=
  kind.versions.any fun v => v.fits kind.tailLength text

/-- The text ends in its checksum, and its bytes are those of an identifier of the kind. -/
def Kind.checksRight (kind : Kind) (text : List Char) : Bool :=
  match Base58.decodeChecked text with
  | some bytes => kind.versions.any fun v => v.carries kind.payloadSize bytes
  | none => false

/-- The text is an identifier of the kind. -/
def Kind.accepts (kind : Kind) (text : List Char) : Bool :=
  kind.looksRight text && kind.checksRight text

end Identifier

/-! ## 3. What was not understood -/

/-- What a text was read as. -/
inductive Subject
  | identifier (kind : Identifier.Kind)
  | blockId

/-- The name of what a text was read as. -/
def Subject.label : Subject → String
  | .identifier kind => kind.label
  | .blockId => "block id"

/-- A text that is not what it was read as. -/
structure ParseError where
  subject : Subject
  value : String

/-- The error in words. -/
def ParseError.message (e : ParseError) : String :=
  "invalid " ++ e.subject.label ++ ": " ++ Quoted.render e.value

/-! ## 4. Identifiers -/

/-- A text that is an identifier of its kind. -/
structure Identifier (kind : Identifier.Kind) where
  text : String
  accepted : kind.accepts text.toList = true

/-- An account, a contract or a rollup. -/
abbrev Address := Identifier .address

/-- The hash of a script expression, under which a big map keeps a value. -/
abbrev ExprHash := Identifier .exprHash

/-- The hash of a block. -/
abbrev BlockHash := Identifier .blockHash

namespace Identifier

variable {kind : Kind}

instance : DecidableEq (Identifier kind) := fun a b =>
  if h : a.text = b.text then
    isTrue (by cases a; cases b; cases h; rfl)
  else isFalse fun e => h (e ▸ rfl)

/-- The identifier that a text is. -/
def parse (kind : Kind) (text : String) : Except ParseError (Identifier kind) :=
  if h : kind.accepts text.toList = true then .ok ⟨text, h⟩
  else .error ⟨.identifier kind, text⟩

/-- The order of identifiers is the order of their texts. -/
def before (a b : Identifier kind) : Bool := a.text < b.text

/-- The identifiers in order. -/
def sort (ids : List (Identifier kind)) : List (Identifier kind) :=
  ids.mergeSort fun a b => !b.before a

/-- The identifiers in order, each once. -/
def distinct (ids : List (Identifier kind)) : List (Identifier kind) := (sort ids).eraseDups

/-- The identifier as JSON. -/
def toValue (id : Identifier kind) : Json.Value := .string id.text

end Identifier

/-- The address is an originated contract's. -/
def Address.isContract (address : Address) : Bool := "KT1".toList.isPrefixOf address.text.toList

end ContractQuery
