import ContractQuery.Json.Outline

/-!
# From a text to its outline

The outline of a text is found by one pass over its characters: `State` is what is known after
some characters, `State.step` takes one more, `State.finish` closes what is still open. So what is
known after a text and then another one is known from the first, by going on with the second.

* `Place` says where in the outline the value under way belongs: at the root, among the items of
  an array, or under a key. `Place.plug` puts a complete value there.
* A state that has stopped stays as it is: the first fault decides, and nothing after it is read.
* Blanks are space, tab, line feed and carriage return, and no other character.
* A `\u` escape is looked at only when four bytes of the text follow it.
-/

namespace ContractQuery

namespace Json

/-! ## 1. Characters -/

/-- The characters that may stand between the parts of a text. -/
def isBlank (c : Char) : Bool := c = ' ' || c = '\t' || c = '\n' || c = '\r'

/-- The value of a hexadecimal digit of either case. -/
def hexDigit? (c : Char) : Option Nat :=
  if '0' ≤ c ∧ c ≤ '9' then some (c.toNat - 48)
  else if 'a' ≤ c ∧ c ≤ 'f' then some (c.toNat - 87)
  else if 'A' ≤ c ∧ c ≤ 'F' then some (c.toNat - 55)
  else none

/-- The piece that four hexadecimal digits stand for. -/
def Piece.ofUnit (code : Nat) : Piece :=
  if 0xd800 ≤ code ∧ code < 0xdc00 then .highHalf (code - 0xd800)
  else if 0xdc00 ≤ code ∧ code < 0xe000 then .lowHalf (code - 0xdc00)
  else .char (Char.ofNat code)

/-- The piece written by the four characters after `\u`; the latest one comes first. -/
def Piece.ofHex? : List Char → Option Piece
  | [d, c, b, a] => do
    let a ← hexDigit? a
    let b ← hexDigit? b
    let c ← hexDigit? c
    let d ← hexDigit? d
    return Piece.ofUnit (((a * 16 + b) * 16 + c) * 16 + d)
  | _ => none

/-- What a character stands for after a backslash. -/
def unescape? (c : Char) : Option Char :=
  match c with
  | '"' => some '"'
  | '\\' => some '\\'
  | '/' => some '/'
  | 'b' => some '\x08'
  | 'f' => some '\x0c'
  | 'n' => some '\n'
  | 'r' => some '\r'
  | 't' => some '\t'
  | _ => none

/-! ## 2. Strings -/

/-- Inside a string; the pieces so far come latest first. -/
inductive Scan
  | plain (done : List Piece)
  /-- After a backslash. -/
  | escape (done : List Piece)
  /-- After `\u`, with the characters seen since, the latest first. -/
  | hex (done : List Piece) (seen : List Char)

/-- The pieces read so far. -/
def Scan.done : Scan → List Piece
  | .plain done => done
  | .escape done => done
  | .hex done _ => done

/-- The string as far as it goes. -/
def Scan.literal (s : Scan) (stop : Option Stop) : Literal := ⟨s.done.reverse, stop⟩

/-- What one more character makes of a string. -/
inductive Scanned
  | more (s : Scan)
  | closed
  | malformed

/-- The number of bytes the characters take. -/
def byteCount (cs : List Char) : Nat := cs.foldr (fun c n => c.utf8Size + n) 0

/-- One more character of a string. -/
def Scan.step : Scan → Char → Scanned
  | .plain done, c =>
    if c = '"' then .closed
    else if c = '\\' then .more (.escape done)
    else if c.toNat < 0x20 then .malformed
    else .more (.plain (.char c :: done))
  | .escape done, c =>
    if c = 'u' then .more (.hex done [])
    else match unescape? c with
      | some meant => .more (.plain (.char meant :: done))
      | none => .malformed
  | .hex done seen, c =>
    let seen := c :: seen
    if byteCount seen < 4 then .more (.hex done seen)
    else match Piece.ofHex? seen with
      | some piece => .more (.plain (piece :: done))
      | none => .malformed

/-! ## 3. Numbers -/

/-- How far the writing of a number has come. -/
inductive NumberPart
  /-- After the sign. -/
  | sign
  /-- After a zero that begins the number. -/
  | zero
  /-- Among the digits before the point. -/
  | whole
  /-- After the point. -/
  | point
  /-- Among the digits after the point. -/
  | fraction
  /-- After the `e`. -/
  | mark
  /-- After the sign of the exponent. -/
  | markSign
  /-- Among the digits of the exponent. -/
  | exponent

/-- The number may end here. -/
def NumberPart.mayEnd : NumberPart → Bool
  | .zero | .whole | .fraction | .exponent => true
  | .sign | .point | .mark | .markSign => false

/-- The part a first character begins. -/
def NumberPart.ofFirst? (c : Char) : Option NumberPart :=
  if c = '-' then some .sign
  else if c = '0' then some .zero
  else if c.isDigit then some .whole
  else none

/-- What one more character makes of a number. -/
inductive Numbered
  | more (part : NumberPart)
  /-- The character belongs to what follows the number. -/
  | ended
  | malformed

/-- One more character of a number, or the one after it. -/
def NumberPart.step : NumberPart → Char → Numbered
  | .sign, c =>
    if c = '0' then .more .zero else if c.isDigit then .more .whole else .malformed
  | .zero, c =>
    if c.isDigit then .malformed
    else if c = '.' then .more .point
    else if c = 'e' || c = 'E' then .more .mark
    else .ended
  | .whole, c =>
    if c.isDigit then .more .whole
    else if c = '.' then .more .point
    else if c = 'e' || c = 'E' then .more .mark
    else .ended
  | .point, c => if c.isDigit then .more .fraction else .malformed
  | .fraction, c =>
    if c.isDigit then .more .fraction
    else if c = 'e' || c = 'E' then .more .mark
    else .ended
  | .mark, c =>
    if c = '+' || c = '-' then .more .markSign
    else if c.isDigit then .more .exponent
    else .malformed
  | .markSign, c => if c.isDigit then .more .exponent else .malformed
  | .exponent, c => if c.isDigit then .more .exponent else .ended

/-! ## 4. Places and states -/

/-- Where the value under way belongs. -/
inductive Place
  | root
  /-- After the items `done` (the latest first) of an array. -/
  | item (done : List Node) (outer : Place)
  /-- Under a key, after the members `done` (the latest first) of an object. -/
  | member (done : List (Literal × Node)) (key : Literal) (outer : Place)

/-- What is known after some characters of a text. -/
inductive State
  /-- A value has to come. -/
  | value (place : Place)
  /-- An array has begun: an item or its end has to come. -/
  | firstItem (outer : Place)
  /-- After an item. -/
  | afterItem (done : List Node) (outer : Place)
  /-- An object has begun: a key or its end has to come. -/
  | firstKey (outer : Place)
  /-- After the comma between two members. -/
  | nextKey (done : List (Literal × Node)) (outer : Place)
  /-- Inside a key. -/
  | key (scan : Scan) (done : List (Literal × Node)) (outer : Place)
  /-- Between a key and its value. -/
  | colon (name : Literal) (done : List (Literal × Node)) (outer : Place)
  /-- After a member. -/
  | afterMember (done : List (Literal × Node)) (outer : Place)
  /-- Inside a word that lacks `next` and then `rest`. -/
  | word (next : Char) (rest : List Char) (meaning : Node) (place : Place)
  /-- Inside a number, its characters latest first. -/
  | number (part : NumberPart) (text : List Char) (place : Place)
  /-- Inside a string. -/
  | string (scan : Scan) (place : Place)
  /-- After the value of the text. -/
  | complete (root : Node)
  /-- Nothing more is read. -/
  | stopped (outline : Document)

/-- The outline of a text that stops at a place, where the value under way is `node`. -/
def Place.close (why : Stop) : Place → Node → Document
  | .root, node => ⟨node, false⟩
  | .item done outer, node =>
    outer.close why (.array ((Items.item node (.stopped why)).after done))
  | .member done key outer, node =>
    outer.close why (.object ((Members.member key node (.stopped why)).after done))

/-- The outline of a text that stops after the items `done` of an array. -/
def Place.closeItems (why : Stop) (outer : Place) (done : List Node) : Document :=
  outer.close why (.array ((Items.stopped why).after done))

/-- The outline of a text that stops after the members `done` of an object. -/
def Place.closeMembers (why : Stop) (outer : Place) (done : List (Literal × Node)) : Document :=
  outer.close why (.object ((Members.stopped why).after done))

/-- A complete value at its place. -/
def Place.plug : Place → Node → State
  | .root, node => .complete node
  | .item done outer, node => .afterItem (node :: done) outer
  | .member done key outer, node => .afterMember ((key, node) :: done) outer

/-! ## 5. One character -/

/-- A character where a value has to come. -/
def Place.begin (place : Place) (c : Char) : State :=
  match c with
  | '"' => .string (.plain []) place
  | '[' => .firstItem place
  | '{' => .firstKey place
  | 'n' => .word 'u' ['l', 'l'] .null place
  | 't' => .word 'r' ['u', 'e'] (.bool true) place
  | 'f' => .word 'a' ['l', 's', 'e'] (.bool false) place
  | _ =>
    match NumberPart.ofFirst? c with
    | some part => .number part [c] place
    | none => .stopped (place.close .malformed (.stopped .malformed))

/-- A character after an item. -/
def stepAfterItem (done : List Node) (outer : Place) (c : Char) : State :=
  if isBlank c then .afterItem done outer
  else if c = ',' then .value (.item done outer)
  else if c = ']' then outer.plug (.array (Items.closed.after done))
  else .stopped (outer.closeItems .malformed done)

/-- A character after a member. -/
def stepAfterMember (done : List (Literal × Node)) (outer : Place) (c : Char) : State :=
  if isBlank c then .afterMember done outer
  else if c = ',' then .nextKey done outer
  else if c = '}' then outer.plug (.object (Members.closed.after done))
  else .stopped (outer.closeMembers .malformed done)

/-- A character after the value of the text. -/
def stepComplete (root : Node) (c : Char) : State :=
  if isBlank c then .complete root else .stopped ⟨root, true⟩

/-- The character that follows a value which only that character ends. -/
def Place.follow : Place → Node → Char → State
  | .root, node, c => stepComplete node c
  | .item done outer, node, c => stepAfterItem (node :: done) outer c
  | .member done key outer, node, c => stepAfterMember ((key, node) :: done) outer c

/-- One more character. -/
def State.step : State → Char → State
  | .value place, c => if isBlank c then .value place else place.begin c
  | .firstItem outer, c =>
    if isBlank c then .firstItem outer
    else if c = ']' then outer.plug (.array .closed)
    else (Place.item [] outer).begin c
  | .afterItem done outer, c => stepAfterItem done outer c
  | .firstKey outer, c =>
    if isBlank c then .firstKey outer
    else if c = '}' then outer.plug (.object .closed)
    else if c = '"' then .key (.plain []) [] outer
    else .stopped (outer.closeMembers .malformed [])
  | .nextKey done outer, c =>
    if isBlank c then .nextKey done outer
    else if c = '"' then .key (.plain []) done outer
    else .stopped (outer.closeMembers .malformed done)
  | .key scan done outer, c =>
    match scan.step c with
    | .more scan => .key scan done outer
    | .closed => .colon (scan.literal none) done outer
    | .malformed =>
      .stopped ((Place.member done (scan.literal (some .malformed)) outer).close .malformed
        (.stopped .malformed))
  | .colon name done outer, c =>
    if isBlank c then .colon name done outer
    else if c = ':' then .value (.member done name outer)
    else .stopped ((Place.member done name outer).close .malformed (.stopped .malformed))
  | .afterMember done outer, c => stepAfterMember done outer c
  | .word next rest meaning place, c =>
    if c = next then
      match rest with
      | [] => place.plug meaning
      | next :: rest => .word next rest meaning place
    else .stopped (place.close .malformed (.stopped .malformed))
  | .number part text place, c =>
    match part.step c with
    | .more part => .number part (c :: text) place
    | .ended => place.follow (.number text.reverse) c
    | .malformed => .stopped (place.close .malformed (.stopped .malformed))
  | .string scan place, c =>
    match scan.step c with
    | .more scan => .string scan place
    | .closed => place.plug (.string (scan.literal none))
    | .malformed =>
      .stopped (place.close .malformed (.string (scan.literal (some .malformed))))
  | .complete root, c => stepComplete root c
  | .stopped outline, _ => .stopped outline

/-! ## 6. The end of the text -/

/-- The outline when the text ends in a state. -/
def State.finish : State → Document
  | .value place => place.close .cutShort (.stopped .cutShort)
  | .firstItem outer => outer.closeItems .cutShort []
  | .afterItem done outer => outer.closeItems .cutShort done
  | .firstKey outer => outer.closeMembers .cutShort []
  | .nextKey done outer => outer.closeMembers .cutShort done
  | .key scan done outer =>
    (Place.member done (scan.literal (some .cutShort)) outer).close .cutShort (.stopped .cutShort)
  | .colon name done outer => (Place.member done name outer).close .cutShort (.stopped .cutShort)
  | .afterMember done outer => outer.closeMembers .cutShort done
  | .word _ _ _ place => place.close .cutShort (.stopped .cutShort)
  | .number part text place =>
    place.close .cutShort (if part.mayEnd then .number text.reverse else .cutNumber)
  | .string scan place => place.close .cutShort (.string (scan.literal (some .cutShort)))
  | .complete root => ⟨root, false⟩
  | .stopped outline => outline

/-! ## 7. The outline of a text -/

/-- The state before the first character. -/
def State.start : State := .value .root

/-- The state after some more characters. -/
def State.run (s : State) (text : List Char) : State := text.foldl State.step s

/-- The outline of a text. -/
def Document.ofText (text : String) : Document := (State.start.run text.toList).finish

end Json

end ContractQuery
