import ContractQuery.Body.Failure
import ContractQuery.Json.Reading

/-!
# Reading what a text says

A `Decoder` walks the outline of a text from left to right and either says what it reads or reports
the first problem (`Failure`). This file holds the decoders that everything else is made of.

* `Literal.decode` reads a string. A high half of a surrogate pair must be followed by a low one.
* `Value.ofNode` reads any value in full. Numbers beyond the doubles are refused.
* `skip` passes over a value of no interest: whatever is grammatical will do, at any depth, with
  numbers of any size and with half surrogate pairs.
* `list`, `map` and `record` read arrays and objects item by item, so what is wrong with an item is
  reported before anything behind it is looked at.
* Arrays and objects that are read, not skipped, may lie in one another only so deep
  (`deepest`). A decoder is told how many may still be entered (`room`).
-/

namespace ContractQuery

namespace Body

open Json (Items Literal Members Node Number Piece Stop Value)

/-- What reads a value: told how many arrays and objects may be entered, it reads an outline. -/
abbrev Decoder (α : Type) := (room : Nat) → Node → Except Failure α

/-- How many arrays and objects may lie in one another. -/
def deepest : Nat := 127

/-! ## 1. Strings -/

/-- The failure of a string that stopped, or the characters of one that did not. -/
def endOfString (stop : Option Stop) : Except Failure (List Char) :=
  match stop with
  | none => .ok []
  | some why => .error (.ofStop why)

/-- The characters of the pieces of a string. -/
def joinPieces (stop : Option Stop) : List Piece → Except Failure (List Char)
  | [] => endOfString stop
  | .char c :: rest => (c :: ·) <$> joinPieces stop rest
  | .highHalf high :: .lowHalf low :: rest =>
    (Char.ofNat (0x10000 + high * 0x400 + low) :: ·) <$> joinPieces stop rest
  | .highHalf _ :: [] =>
    match stop with
    | some .cutShort => .error .cutShort
    | _ => .error .malformed
  | .highHalf _ :: _ => .error .malformed
  | .lowHalf _ :: _ => .error .malformed

/-- The text of a string. -/
def readLiteral (s : Literal) : Except Failure String :=
  String.ofList <$> joinPieces s.stop s.pieces

/-! ## 2. Numbers and wrong types -/

/-- The number that is written. -/
def readNumber (text : List Char) : Except Failure Number :=
  match Number.ofText text with
  | some n => .ok n
  | none => .error .malformed

/-- The failure of a value where something else was wanted. A string or a number is read first, and
    may fail in its own way; an array or an object is not entered. -/
def wrongType (wanted : Wanted) (node : Node) : Failure :=
  match found node with
  | .ok what => .mismatch (.wrongType what wanted)
  | .error failure => failure
where
  /-- What there is in place of what was wanted. -/
  found : Node → Except Failure Found
    | .null => .ok .null
    | .bool b => .ok (.bool b)
    | .number text => .number <$> readNumber text
    | .cutNumber => .error .cutShort
    | .string s => .string <$> readLiteral s
    | .array _ => .ok .sequence
    | .object _ => .ok .map
    | .stopped why => .error (.ofStop why)

/-- A string. -/
def string : Decoder String := fun _ node =>
  match node with
  | .string s => readLiteral s
  | node => .error (wrongType .string node)

/-! ## 3. Values in full -/

mutual

/-- Any value. -/
def readValue (room : Nat) : Node → Except Failure Value
  | .null => .ok .null
  | .bool b => .ok (.bool b)
  | .number text => .number <$> readNumber text
  | .cutNumber => .error .cutShort
  | .string s => .string <$> readLiteral s
  | .array items =>
    match room with
    | 0 => .error .malformed
    | room + 1 => .array <$> readItems room items
  | .object members =>
    match room with
    | 0 => .error .malformed
    | room + 1 => .object <$> readMembers room members
  | .stopped why => .error (.ofStop why)

/-- The items of an array, each a value. -/
def readItems (room : Nat) : Items → Except Failure (List Value)
  | .closed => .ok []
  | .stopped why => .error (.ofStop why)
  | .item node rest => do
    let v ← readValue room node
    let vs ← readItems room rest
    return v :: vs

/-- The members of an object, each with a value. -/
def readMembers (room : Nat) : Members → Except Failure (List (String × Value))
  | .closed => .ok []
  | .stopped why => .error (.ofStop why)
  | .member key node rest => do
    let name ← readLiteral key
    let v ← readValue room node
    let vs ← readMembers room rest
    return (name, v) :: vs

end

/-! ## 4. Values of no interest -/

/-- The end of a string that is skipped. -/
def skipLiteral (s : Literal) : Except Failure Unit :=
  match s.stop with
  | none => .ok ()
  | some why => .error (.ofStop why)

mutual

/-- Any value, skipped. A number that lacks digits is malformed here even where the text ends. -/
def skip : Node → Except Failure Unit
  | .null => .ok ()
  | .bool _ => .ok ()
  | .number _ => .ok ()
  | .cutNumber => .error .malformed
  | .string s => skipLiteral s
  | .array items => skipItems items
  | .object members => skipMembers members
  | .stopped why => .error (.ofStop why)

/-- The items of an array, skipped. -/
def skipItems : Items → Except Failure Unit
  | .closed => .ok ()
  | .stopped why => .error (.ofStop why)
  | .item node rest => do
    skip node
    skipItems rest

/-- The members of an object, skipped. -/
def skipMembers : Members → Except Failure Unit
  | .closed => .ok ()
  | .stopped why => .error (.ofStop why)
  | .member key node rest => do
    skipLiteral key
    skip node
    skipMembers rest

end

/-! ## 5. Arrays -/

/-- One array or object entered. -/
def enter (room : Nat) : Except Failure Nat :=
  match room with
  | 0 => .error .malformed
  | room + 1 => .ok room

/-- The items of an array, read one by one. -/
def eachItem {α : Type} (read : Node → Except Failure α) : Items → Except Failure (List α)
  | .closed => .ok []
  | .stopped why => .error (.ofStop why)
  | .item node rest => do
    let a ← read node
    let as ← eachItem read rest
    return a :: as

/-- A list of things. -/
def list {α : Type} (decoder : Decoder α) : Decoder (List α) := fun room node =>
  match node with
  | .array items => do eachItem (decoder (← enter room)) items
  | node => .error (wrongType .sequence node)

/-! ## 6. Objects -/

/-- The members of an object worked in one by one; `take` gets the name and the outline of the
    value. -/
def eachMember {σ : Type} (take : σ → String → Node → Except Failure σ) (met : σ) :
    Members → Except Failure σ
  | .closed => .ok met
  | .stopped why => .error (.ofStop why)
  | .member key node rest => do
    let name ← readLiteral key
    let met ← take met name node
    eachMember take met rest

/-- Things under names; the last one of a name stays. -/
def map {α : Type} (decoder : Decoder α) : Decoder (NameMap α) := fun room node =>
  match node with
  | .object members => do
    let room ← enter room
    eachMember (fun met name node => met.insert name <$> decoder room node) .empty members
  | node => .error (wrongType .map node)

/-! ## 7. Records -/

/-- A field of a record: how its value is read into what was met of the record so far, and whether
    it was met already. -/
structure Field (σ : Type) where
  name : String
  isMet : σ → Bool
  read : σ → Decoder σ

/-- The values of the fields, from an array. What follows the last of them is malformed, for there
    can be only the end of the array. -/
def readFields {σ : Type} (r : Record) (room : Nat) (count : Nat) (met : σ) :
    List (Field σ) → Items → Except Failure σ
  | [], .closed => .ok met
  | _ :: _, .closed => .error (.mismatch (.tooFewItems count r))
  | _, .stopped why => .error (.ofStop why)
  | [], .item .. => .error .malformed
  | field :: fields, .item node rest => do
    let met ← field.read met room node
    readFields r room (count + 1) met fields rest

/-- A member of a record's object: read if it is a field, and else skipped. -/
def takeField {σ : Type} (fields : List (Field σ)) (room : Nat) (met : σ) (name : String)
    (node : Node) : Except Failure σ :=
  match fields.find? (·.name = name) with
  | some field =>
    if field.isMet met then .error (.mismatch (.duplicateField name)) else field.read met room node
  | none => do
    skip node
    return met

/-- A record, from an object or from an array. `finish` gets what was met of an object at its end. -/
def record {σ α : Type} (r : Record) (fields : List (Field σ)) (start : σ)
    (finish : σ → Except Failure α) : Decoder α := fun room node =>
  match node with
  | .array items => do finish (← readFields r (← enter room) 0 start fields items)
  | .object members => do finish (← eachMember (takeField fields (← enter room)) start members)
  | node => .error (wrongType (.record r) node)

/-- The value of a field that has to be there. -/
def required {α : Type} (name : String) (value : Option α) : Except Failure α :=
  match value with
  | some a => .ok a
  | none => .error (.mismatch (.missingField name))

/-! ## 8. Whole texts -/

/-- What a text says, if nothing but blanks follows it. -/
def decode {α : Type} (decoder : Decoder α) (text : String) : Except Failure α := do
  let outline := Json.Document.ofText text
  let a ← decoder deepest outline.root
  if outline.trailing then .error .malformed else return a

end Body

end ContractQuery
