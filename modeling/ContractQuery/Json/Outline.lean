/-!
# The outline of a JSON text

Reading a JSON text goes in two steps. The first finds out how the text is put together, the
second what it says. This file holds what lies between them: the OUTLINE of a text, which exists
for every text, well formed or not.

* `Node` is the outline of one value. What a string or a number stands for is left open: a string
  is the pieces between its quotes (`Literal`), a number the characters it is written with.
* Where reading could not go on, the outline says so at that place (`Stop`): the text ended, or a
  character does not belong there. `Items` and `Members` end either with their bracket or with
  such a stop, so a fault always lies at the right edge of an outline.
* `Document` is the outline of a whole text: its value, and whether something other than blanks
  follows it.

A reader of the second step walks the outline from left to right; the first problem it meets is
the first problem of the text.
-/

namespace ContractQuery

namespace Json

/-! ## 1. Strings -/

/-- Why reading stopped at a place. -/
inductive Stop
  /-- The text ended there. -/
  | cutShort
  /-- What is written there does not belong there. -/
  | malformed
  deriving DecidableEq

/-- A piece of a string: a character, or half of a surrogate pair written as an escape. A half is
    given by its ten bits. -/
inductive Piece
  | char (c : Char)
  | highHalf (bits : Nat)
  | lowHalf (bits : Nat)
  deriving DecidableEq

/-- What is written between two quotes, or up to where it stopped being a string. -/
structure Literal where
  pieces : List Piece
  stop : Option Stop
  deriving DecidableEq

/-! ## 2. Values -/

mutual

/-- The outline of one value. -/
inductive Node
  | null
  | bool (value : Bool)
  /-- A number, as it is written. -/
  | number (text : List Char)
  /-- A number that lacks its last digits because the text ended. -/
  | cutNumber
  | string (literal : Literal)
  | array (items : Items)
  | object (members : Members)
  /-- No value: reading stopped before there was one. -/
  | stopped (why : Stop)

/-- The items of an array. After a comma there is always another item, if only a stopped one. -/
inductive Items
  | closed
  | stopped (why : Stop)
  | item (value : Node) (rest : Items)

/-- The members of an object. -/
inductive Members
  | closed
  | stopped (why : Stop)
  | member (key : Literal) (value : Node) (rest : Members)

end

/-- The items `done` (the latest first), and then `rest`. -/
def Items.after (rest : Items) : List Node → Items
  | [] => rest
  | value :: done => Items.after (.item value rest) done

/-- The members `done` (the latest first), and then `rest`. -/
def Members.after (rest : Members) : List (Literal × Node) → Members
  | [] => rest
  | (key, value) :: done => Members.after (.member key value rest) done

/-! ## 3. Whole texts -/

/-- The outline of a text: one value, and whether more than blanks follows it. -/
structure Document where
  root : Node
  trailing : Bool

end Json

end ContractQuery
