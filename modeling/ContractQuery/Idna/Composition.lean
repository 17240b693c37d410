import ContractQuery.Idna.Mapping

/-!
# Composed characters

A letter with marks can be written as one character or as several. `compose` writes it as one
wherever there is one:

* composed characters are taken apart (`expand`), those of Hangul by arithmetic;
* the marks after a letter are put in order of their combining classes, marks of one class staying
  as they are (`order`);
* each mark is joined to its letter if there is a character for both and no mark between them is in
  the way (`join`).
-/

namespace ContractQuery

namespace Idna

/-! ## 1. Combining classes and pairs -/

/-- The runs of combining classes. -/
def combiningRuns : List Run := Run.ofNumbers 0 (numbers Tables.combining)

/-- The combining class: zero for what begins anew. -/
def combiningClass (c : Char) : Nat :=
  if c.toNat < 0x300 then 0 else Run.valueAt combiningRuns c

/-- A character and the two it is composed of. -/
structure Composition where
  whole : Char
  first : Char
  second : Char

/-- The compositions of triples of numbers. -/
def Composition.ofNumbers : List Nat → List Composition
  | whole :: first :: second :: rest =>
    ⟨Char.ofNat whole, Char.ofNat first, Char.ofNat second⟩ :: Composition.ofNumbers rest
  | _ => []

/-- The compositions. -/
def compositions : List Composition := Composition.ofNumbers (numbers Tables.compositions)

/-! ## 2. Hangul -/

/-- The syllable of a leading consonant, a vowel and perhaps a trailing consonant, by their
    numbers. -/
def syllable (leading vowel trailing : Nat) : Char :=
  Char.ofNat (0xac00 + (leading * 21 + vowel) * 28 + trailing)

/-- The letters of a syllable. -/
def syllableLetters (c : Char) : List Char :=
  let n := c.toNat - 0xac00
  let trailing := n % 28
  [Char.ofNat (0x1100 + n / 588), Char.ofNat (0x1161 + n % 588 / 28)]
    ++ if trailing = 0 then [] else [Char.ofNat (0x11a7 + trailing)]

/-- The character is a syllable. -/
def isSyllable (c : Char) : Bool := 0xac00 ≤ c.toNat && c.toNat < 0xac00 + 11172

/-! ## 3. Apart -/

/-- The parts of a character, taken apart at most `depth` times. -/
def expand : Nat → Char → List Char
  | 0, c => [c]
  | depth + 1, c =>
    if isSyllable c then syllableLetters c
    else match compositions.find? (·.whole = c) with
      | some x => expand depth x.first ++ [x.second]
      | none => [c]

/-- A character put in its place among those before it, the latest first. -/
def order (c : Char) : List Char → List Char
  | [] => [c]
  | d :: before =>
    if combiningClass c ≠ 0 ∧ combiningClass c < combiningClass d then d :: order c before
    else c :: d :: before

/-- A name with all characters taken apart and all marks in order. -/
def decompose (name : List Char) : List Char :=
  ((name.flatMap (expand 4)).foldl (fun before c => order c before) []).reverse

/-! ## 4. Together -/

/-- The character for two, if there is one. -/
def pair? (a b : Char) : Option Char :=
  let l := a.toNat
  let v := b.toNat
  if 0x1100 ≤ l ∧ l < 0x1113 ∧ 0x1161 ≤ v ∧ v < 0x1176 then some (syllable (l - 0x1100) (v - 0x1161) 0)
  else if isSyllable a ∧ (l - 0xac00) % 28 = 0 ∧ 0x11a7 < v ∧ v < 0x11c3 then
    some (Char.ofNat (l + (v - 0x11a7)))
  else (compositions.find? fun x => x.first = a && x.second = b).map (·.whole)

/-- The characters that follow, joined to the letter under way where they can be; `between` are the
    marks that were not, the latest first. -/
def join : Option Char → List Char → List Char → List Char
  | letter, between, [] => letter.toList ++ between.reverse
  | none, between, c :: rest =>
    if combiningClass c = 0 then between.reverse ++ join (some c) [] rest
    else join none (c :: between) rest
  | some letter, between, c :: rest =>
    let free := match between with
      | [] => true
      | mark :: _ => combiningClass mark < combiningClass c
    match if free then pair? letter c else none with
    | some whole => join (some whole) between rest
    | none =>
      if combiningClass c = 0 then letter :: between.reverse ++ join (some c) [] rest
      else join (some letter) (c :: between) rest

/-- A name with all characters composed. -/
def compose (name : List Char) : List Char :=
  if name.all (·.toNat < 0x300) then name else join none [] (decompose name)

end Idna

end ContractQuery
