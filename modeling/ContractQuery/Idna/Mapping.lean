import ContractQuery.Idna.Tables

/-!
# What becomes of the characters of a name

A name of a host may be written in any script and in many ways. Before anything else each of its
characters is kept, dropped, refused, or replaced by others, as the table `Tables.mapping` says:
capital letters become small, full width digits become digits, unassigned code points are refused.

* `numbers` reads the numbers of a table, `Run.ofNumbers` its runs, and `Run.valueAt` finds the value
  of a code point.
* `Rewrite` is what a run of the mapping does, and `mapChar` what becomes of one character.
-/

namespace ContractQuery

namespace Idna

/-! ## 1. Tables -/

/-- The value of a hexadecimal digit. -/
def hexValue? (c : Char) : Option Nat :=
  if '0' ≤ c ∧ c ≤ '9' then some (c.toNat - 48)
  else if 'a' ≤ c ∧ c ≤ 'f' then some (c.toNat - 87)
  else none

/-- The numbers of a text, after the one under way. -/
def numbersFrom (pending : Option Nat) : List Char → List Nat
  | [] => pending.toList
  | c :: rest =>
    match hexValue? c with
    | some d => numbersFrom (some (pending.getD 0 * 16 + d)) rest
    | none => pending.toList ++ numbersFrom none rest

/-- The numbers of a text, each in hexadecimal digits, with blanks between them. -/
def numbers (text : String) : List Nat := numbersFrom none text.toList

/-- Code points up to `last`, after those of the run before, that share a value. -/
structure Run where
  last : Nat
  value : Nat

/-- The runs of lengths and values, from a code point on. -/
def Run.ofNumbers (start : Nat) : List Nat → List Run
  | length :: value :: rest => ⟨start + length - 1, value⟩ :: Run.ofNumbers (start + length) rest
  | _ => []

/-- The value of a code point. -/
def Run.valueAt (runs : List Run) (c : Char) : Nat :=
  match runs.find? fun r => c.toNat ≤ r.last with
  | some r => r.value
  | none => 0

/-! ## 2. Rules -/

/-- What is done to the characters of a run. -/
inductive Rewrite
  | keep
  | drop
  | refuse
  /-- The run moves to where its first character becomes `target`. -/
  | move (target : Nat)
  /-- Of each two characters the first becomes the second. -/
  | pair
  /-- Each character becomes these. -/
  | replace (targets : List Char)

/-- A run of the mapping. -/
structure MappingRun where
  first : Nat
  last : Nat
  rewrite : Rewrite

/-- Where the reader of the mapping is. -/
inductive MappingPlace
  | run
  | rule (length : Nat)
  | target (length : Nat)
  | targets (length : Nat) (done : List Char)

/-- The runs of the mapping, from a code point on. -/
def MappingRun.ofNumbers (start : Nat) : MappingPlace → List Nat → List MappingRun
  | _, [] => []
  | .run, length :: rest => MappingRun.ofNumbers start (.rule length) rest
  | .rule length, rule :: rest =>
    let simple (r : Rewrite) : List MappingRun :=
      ⟨start, start + length - 1, r⟩ :: MappingRun.ofNumbers (start + length) .run rest
    match rule with
    | 0 => simple .keep
    | 1 => simple .drop
    | 3 => MappingRun.ofNumbers start (.target length) rest
    | 4 => simple .pair
    | 5 => MappingRun.ofNumbers start (.targets length []) rest
    | _ => simple .refuse
  | .target length, target :: rest =>
    ⟨start, start + length - 1, .move target⟩ :: MappingRun.ofNumbers (start + length) .run rest
  | .targets length done, code :: rest =>
    if code = 0 then
      ⟨start, start + length - 1, .replace done.reverse⟩
        :: MappingRun.ofNumbers (start + length) .run rest
    else MappingRun.ofNumbers start (.targets length (Char.ofNat code :: done)) rest

/-- The mapping. -/
def mappingRuns : List MappingRun := MappingRun.ofNumbers 0 .run (numbers Tables.mapping)

/-! ## 3. Characters and names -/

/-- The rule for a character, and the first code point of its run. -/
def rewriteOf (c : Char) : Nat × Rewrite :=
  match mappingRuns.find? fun r => c.toNat ≤ r.last with
  | some r => (r.first, r.rewrite)
  | none => (0, .refuse)

/-- What becomes of a character; nothing comes of one that is refused. -/
def mapChar (c : Char) : Option (List Char) :=
  match rewriteOf c with
  | (_, .keep) => some [c]
  | (_, .drop) => some []
  | (_, .refuse) => none
  | (first, .move target) => some [Char.ofNat (target + (c.toNat - first))]
  | (first, .pair) => some [if (c.toNat - first) % 2 = 0 then Char.ofNat (c.toNat + 1) else c]
  | (_, .replace targets) => some targets

/-- The character is kept as it is. -/
def isKept (c : Char) : Bool := mapChar c = some [c]

/-- What becomes of a name, if none of its characters is refused. -/
def mapName (name : List Char) : Option (List Char) := (name.mapM mapChar).map List.flatten

end Idna

end ContractQuery
