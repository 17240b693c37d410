import ContractQuery.Text.Decimal
import ContractQuery.Text.Quoted

/-!
# Micheline expressions

Types, code and data of contracts are trees of one kind, `Expr`: integers, strings and bytes at the
leaves, sequences, and applications of a named primitive.

* An integer is its decimal text, of any size; `Expr.asInt64` is its value if it fits.
* `Expr.invalid` is no expression of the chain. It stands where none was given, and it is what an
  expression is before it is known.
* `Expr.inspect` shows a tree in full, for messages.
-/

namespace ContractQuery

namespace Micheline

/-- An expression. -/
inductive Expr
  /-- No expression. -/
  | invalid
  /-- An integer, in decimal digits. -/
  | int (text : String)
  | string (text : String)
  /-- Bytes, in hexadecimal digits. -/
  | bytes (hex : String)
  | seq (items : List Expr)
  /-- A primitive applied to arguments, with annotations. -/
  | app (name : String) (args : List Expr) (annots : List String)

namespace Expr

/-! ## 1. Equality -/

mutual

/-- Two expressions are the same tree. -/
def decEq : (a b : Expr) → Decidable (a = b)
  | .invalid, .invalid => isTrue rfl
  | .int a, .int b => decidable_of_iff (a = b) (by simp)
  | .string a, .string b => decidable_of_iff (a = b) (by simp)
  | .bytes a, .bytes b => decidable_of_iff (a = b) (by simp)
  | .seq as, .seq bs =>
    match decEqList as bs with
    | isTrue h => isTrue (h ▸ rfl)
    | isFalse h => isFalse fun e => h (Expr.seq.inj e)
  | .app n as xs, .app m bs ys =>
    match decEqList as bs with
    | isTrue h => decidable_of_iff (n = m ∧ xs = ys) (by simp [h])
    | isFalse h => isFalse fun e => h (Expr.app.inj e).2.1
  | .invalid, .int _ | .invalid, .string _ | .invalid, .bytes _ | .invalid, .seq _
  | .invalid, .app .. | .int _, .invalid | .int _, .string _ | .int _, .bytes _ | .int _, .seq _
  | .int _, .app .. | .string _, .invalid | .string _, .int _ | .string _, .bytes _
  | .string _, .seq _ | .string _, .app .. | .bytes _, .invalid | .bytes _, .int _
  | .bytes _, .string _ | .bytes _, .seq _ | .bytes _, .app .. | .seq _, .invalid | .seq _, .int _
  | .seq _, .string _ | .seq _, .bytes _ | .seq _, .app .. | .app .., .invalid | .app .., .int _
  | .app .., .string _ | .app .., .bytes _ | .app .., .seq _ => isFalse (by simp)

/-- Two lists of expressions are the same. -/
def decEqList : (as bs : List Expr) → Decidable (as = bs)
  | [], [] => isTrue rfl
  | [], _ :: _ => isFalse (by simp)
  | _ :: _, [] => isFalse (by simp)
  | a :: as, b :: bs =>
    match decEq a b, decEqList as bs with
    | isTrue h, isTrue hs => isTrue (by rw [h, hs])
    | isFalse h, _ => isFalse fun e => h (List.cons.inj e).1
    | _, isFalse hs => isFalse fun e => hs (List.cons.inj e).2

end

instance : DecidableEq Expr := decEq

/-! ## 2. Parts -/

/-- An application without annotations. -/
def apply (name : String) (args : List Expr) : Expr := .app name args []

/-- Every expression but the one that stands for none. -/
def isValid : Expr → Bool
  | .invalid => false
  | _ => true

/-- The primitive of an application. -/
def name? : Expr → Option String
  | .app name _ _ => some name
  | _ => none

/-- The arguments of an application, or the items of a sequence. -/
def args : Expr → List Expr
  | .app _ args _ => args
  | .seq items => items
  | _ => []

/-- The annotations of an application. -/
def annots : Expr → List String
  | .app _ _ annots => annots
  | _ => []

/-- The value of an integer, if it is one of 64 bits. -/
def asInt64 : Expr → Option Int64
  | .int text => (Decimal.readInt64 text).toOption
  | _ => none

/-- The expressions met on the way from a root, by the places of the arguments to follow; the way
    ends where there is no such argument. -/
def walk (root : Expr) : List Nat → List (Option Expr)
  | [] => [some root]
  | place :: rest =>
    match root.args[place]? with
    | some arg => some root :: walk arg rest
    | none => [some root, none]

/-! ## 3. Trees in full -/

/-- Texts in brackets, with commas between them. -/
def bracketed (texts : List String) : String := "[" ++ ", ".intercalate texts ++ "]"

mutual

/-- The tree in full, each text quoted. -/
def inspect : Expr → String
  | .invalid => "Invalid"
  | .int text => "Int(" ++ Quoted.render text ++ ")"
  | .string text => "String(" ++ Quoted.render text ++ ")"
  | .bytes hex => "Bytes(" ++ Quoted.render hex ++ ")"
  | .seq items => "Seq(" ++ bracketed (inspectAll items) ++ ")"
  | .app name args annots =>
    "App \x7b prim: " ++ Quoted.render name ++ ", args: " ++ bracketed (inspectAll args)
      ++ ", annots: " ++ bracketed (annots.map Quoted.render) ++ " \x7d"

/-- The trees of a list in full. -/
def inspectAll : List Expr → List String
  | [] => []
  | e :: rest => inspect e :: inspectAll rest

end

end Expr

end Micheline

end ContractQuery
