import ContractQuery.Json.Number
import ContractQuery.NameMap

/-!
# JSON values and their text

`Value` is what a JSON text says. The members of an object are kept as they stand, in their order
and with repetitions; `Value.sorted` is the form in which neither can be seen any more.

* `Value.print` writes a value without blanks. Inside strings only the quote, the backslash and the
  controls below U+0020 are escaped.
* `Value.sorted` orders the members of every object by name and keeps the last one of each name.
-/

namespace ContractQuery

namespace Json

/-- A JSON value. -/
inductive Value
  | null
  | bool (value : Bool)
  | number (value : Number)
  | string (text : String)
  | array (items : List Value)
  | object (members : List (String × Value))

/-! ## 1. Strings -/

/-- How one character is written inside a string. -/
def escapeChar (c : Char) : List Char :=
  if c = '"' then ['\\', '"']
  else if c = '\\' then ['\\', '\\']
  else if c = '\x08' then ['\\', 'b']
  else if c = '\t' then ['\\', 't']
  else if c = '\n' then ['\\', 'n']
  else if c = '\x0c' then ['\\', 'f']
  else if c = '\r' then ['\\', 'r']
  else if c.toNat < 0x20 then
    ['\\', 'u', '0', '0', Nat.digitChar (c.toNat / 16), Nat.digitChar (c.toNat % 16)]
  else [c]

/-- A string between its quotes. -/
def printString (text : String) : List Char :=
  '"' :: text.toList.flatMap escapeChar ++ ['"']

/-! ## 2. Values -/

mutual

/-- The text of a value, without blanks. -/
def Value.print : Value → List Char
  | .null => ['n', 'u', 'l', 'l']
  | .bool true => ['t', 'r', 'u', 'e']
  | .bool false => ['f', 'a', 'l', 's', 'e']
  | .number n => n.text
  | .string text => printString text
  | .array items => '[' :: printItems items ++ [']']
  | .object members => '{' :: printMembers members ++ ['}']

/-- The items of an array, with commas between them. -/
def printItems : List Value → List Char
  | [] => []
  | item :: rest => item.print ++ printMoreItems rest

/-- The items of an array, each after a comma. -/
def printMoreItems : List Value → List Char
  | [] => []
  | item :: rest => ',' :: item.print ++ printMoreItems rest

/-- The members of an object, with commas between them. -/
def printMembers : List (String × Value) → List Char
  | [] => []
  | (name, value) :: rest => printString name ++ ':' :: value.print ++ printMoreMembers rest

/-- The members of an object, each after a comma. -/
def printMoreMembers : List (String × Value) → List Char
  | [] => []
  | (name, value) :: rest =>
    ',' :: printString name ++ ':' :: value.print ++ printMoreMembers rest

end

/-- The text of a value. -/
def Value.text (v : Value) : String := String.ofList v.print

/-! ## 3. The order of members -/

mutual

/-- The value with the members of every object in order, the last one of each name. -/
def Value.sorted : Value → Value
  | .array items => .array (sortedItems items)
  | .object members => .object (sortedMembers [] members)
  | v => v

/-- The items, each in order. -/
def sortedItems : List Value → List Value
  | [] => []
  | item :: rest => item.sorted :: sortedItems rest

/-- The members put in order after those that are in order already. -/
def sortedMembers (done : List (String × Value)) : List (String × Value) → List (String × Value)
  | [] => done
  | (name, value) :: rest => sortedMembers (NameMap.insertEntry name value.sorted done) rest

end

end Json

end ContractQuery
