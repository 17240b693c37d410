import ContractQuery.Idna.Composition
import ContractQuery.Idna.Punycode

/-!
# International names of hosts

A name is labels with dots between them. `Domain.parse` maps a name, composes it, and checks its
labels; none of them may break a rule:

* a label that begins with `xn--` is the encoding of one that has other than ASCII characters and
  is written as mapping and composing would write it;
* no label begins with a mark, and none that has other than ASCII characters begins with `xn--`;
* the two invisible joiners stand only where they join something (`joinsWell`);
* where a name has letters that run from right to left, each label has one direction
  (`runsOneWay`).
-/

namespace ContractQuery

namespace Idna

/-! ## 1. Marks and joiners -/

/-- The runs of marks. -/
def markRuns : List Run := Run.ofNumbers 0 (numbers Tables.marks)

/-- The character is a mark. -/
def isMark (c : Char) : Bool := Run.valueAt markRuns c = 1

/-- The runs of joining letters. -/
def joiningRuns : List Run := Run.ofNumbers 0 (numbers Tables.joining)

/-- How a letter joins its neighbours. -/
inductive Joining
  | none
  | left
  | right
  | both
  /-- It does not stand between letters that join. -/
  | transparent
  deriving DecidableEq

/-- How a character joins its neighbours. -/
def joiningOf (c : Char) : Joining :=
  match Run.valueAt joiningRuns c with
  | 1 => .left
  | 2 => .right
  | 3 => .both
  | 4 => .transparent
  | _ => .none

/-- The first character that is not transparent joins as wanted. -/
def meets (wanted : Joining) (cs : List Char) : Bool :=
  match cs.find? fun c => joiningOf c ≠ .transparent with
  | some c => joiningOf c = wanted || joiningOf c = .both
  | none => false

/-- The sign that kills a vowel, after which a joiner may stand. -/
def isVirama (c : Char) : Bool := combiningClass c = 9

/-- The joiners of a label stand after a virama, or part two letters that would join; `before` is
    what comes before, the latest first. -/
def joinsWell (before : List Char) : List Char → Bool
  | [] => true
  | c :: rest =>
    let afterVirama := match before with
      | last :: _ => isVirama last
      | [] => false
    let fits :=
      if c = '\u200d' then afterVirama
      else if c = '\u200c' then afterVirama || (meets .left before && meets .right rest)
      else true
    fits && joinsWell (c :: before) rest

/-! ## 2. Directions -/

/-- The runs of directions. -/
def directionRuns : List Run := Run.ofNumbers 0 (numbers Tables.directions)

/-- The direction of a character. -/
inductive Direction
  | leftToRight
  | rightToLeft
  | arabicNumber
  | europeanNumber
  /-- What may stand inside a label of either direction. -/
  | neutral
  | mark
  | other
  deriving DecidableEq

/-- The direction of a character. -/
def directionOf (c : Char) : Direction :=
  match Run.valueAt directionRuns c with
  | 0 => .leftToRight
  | 1 => .rightToLeft
  | 2 => .rightToLeft
  | 3 => .arabicNumber
  | 4 => .europeanNumber
  | 5 | 6 | 7 | 8 | 9 => .neutral
  | 10 => .mark
  | _ => .other

/-- The character makes a name one that runs from right to left. -/
def runsLeft (c : Char) : Bool :=
  directionOf c = .rightToLeft || directionOf c = .arabicNumber

/-- The directions fit together in a label from left to right. -/
def runsRightward (ds : List Direction) : Bool :=
  let ends := match (ds.reverse.dropWhile (· = .mark)).head? with
    | some d => d = .leftToRight || d = .europeanNumber
    | none => true
  ends && ds.all fun d =>
    d = .leftToRight || d = .europeanNumber || d = .neutral || d = .mark

/-- The directions fit together in a label from right to left. -/
def runsLeftward (ds : List Direction) : Bool :=
  let ends := match (ds.reverse.dropWhile (· = .mark)).head? with
    | some d => d = .rightToLeft || d = .arabicNumber || d = .europeanNumber
    | none => true
  ends && (ds.all fun d => d ≠ .leftToRight && d ≠ .other)
    && !(ds.contains .arabicNumber && ds.contains .europeanNumber)

/-- A label of a name that runs from right to left has one direction. -/
def runsOneWay (label : List Char) : Bool :=
  match label.map directionOf with
  | [] => true
  | .leftToRight :: ds => runsRightward (.leftToRight :: ds)
  | .rightToLeft :: ds => runsLeftward (.rightToLeft :: ds)
  | _ => false

/-! ## 3. Labels -/

/-- All characters are ASCII. -/
def isAscii (cs : List Char) : Bool := cs.all (·.toNat < 0x80)

/-- What an encoded label begins with. -/
def encodedOpening : List Char := ['x', 'n', '-', '-']

/-- A label: how it is written if that is in ASCII, and what it says. -/
structure Label where
  ascii : Option (List Char)
  chars : List Char

/-- What a label with other than ASCII characters says is allowed. -/
def isSound (chars : List Char) : Bool :=
  let begins := match chars with
    | c :: _ => !isMark c
    | [] => true
  begins && !encodedOpening.isPrefixOf chars && joinsWell [] chars

/-- The label that is written. -/
def Label.parse (text : List Char) : Option Label :=
  if isAscii text then
    if encodedOpening.isPrefixOf text then do
      let chars ← Punycode.decode (text.drop encodedOpening.length)
      if !isAscii chars && chars.all isKept && compose chars = chars && isSound chars then
        some ⟨some text, chars⟩
      else none
    else some ⟨some text, text⟩
  else if isSound text then some ⟨none, text⟩
  else none

/-! ## 4. Names -/

/-- The pieces of a text between the characters that part it. -/
def split (isPart : Char → Bool) : List Char → List (List Char)
  | [] => [[]]
  | c :: rest =>
    if isPart c then [] :: split isPart rest
    else match split isPart rest with
      | piece :: pieces => (c :: piece) :: pieces
      | [] => [[c]]

/-- The labels of a name, if it breaks no rule. -/
def Domain.parse (name : List Char) : Option (List Label) := do
  let mapped ← mapName name
  let labels ← (split (· = '.') (compose mapped)).mapM Label.parse
  let isLeftward := labels.any fun l => l.chars.any runsLeft
  if isLeftward && !labels.all fun l => runsOneWay l.chars then none else some labels

end Idna

end ContractQuery
