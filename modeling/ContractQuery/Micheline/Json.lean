import ContractQuery.Json.Value
import ContractQuery.Micheline.Expr

/-!
# Micheline expressions as JSON

* `Expr.toValue` writes an expression: a leaf as an object with one member, a sequence as an array,
  an application as an object with the members `prim`, `args` and `annots`, the last two only if
  there are any. `Expr.invalid` is written as `null`.
* `Expr.ofValue` reads what `toValue` writes, with the members of an object in any order, and empty
  lists where members may be left out. The objects may also be written as arrays of their members'
  values. An array that holds one string is an integer, never a sequence.
* Nothing else is an expression (`Rejection`). Members of another kind of node, repeated members and
  `null` are refused at every depth. Only an integer at the root that is no numeral is reported as
  such.
-/

namespace ContractQuery

namespace Micheline

open Json (Value)

/-! ## 1. Writing -/

/-- Strings as JSON. -/
def stringValues (texts : List String) : List Value := texts.map .string

mutual

/-- The expression as JSON. -/
def Expr.toValue : Expr → Value
  | .invalid => .null
  | .int text => .object [("int", .string text)]
  | .string text => .object [("string", .string text)]
  | .bytes hex => .object [("bytes", .string hex)]
  | .seq items => .array (toValues items)
  | .app name [] [] => .object [("prim", .string name)]
  | .app name (arg :: args) [] =>
    .object [("prim", .string name), ("args", .array (arg.toValue :: toValues args))]
  | .app name [] (annot :: annots) =>
    .object [("prim", .string name), ("annots", .array (stringValues (annot :: annots)))]
  | .app name (arg :: args) (annot :: annots) =>
    .object [("prim", .string name), ("args", .array (arg.toValue :: toValues args)),
      ("annots", .array (stringValues (annot :: annots)))]

/-- The expressions of a list as JSON. -/
def toValues : List Expr → List Value
  | [] => []
  | e :: rest => e.toValue :: toValues rest

end

/-- The text of the expression as JSON. -/
def Expr.encode (e : Expr) : String := e.toValue.text

/-! ## 2. Reading -/

/-- Why a value is no expression. -/
inductive Rejection
  /-- The root is an integer, but its text is no numeral. -/
  | badInteger (text : String)
  /-- The value has no form of an expression. -/
  | noForm

/-- The rejection in words. -/
def Rejection.message : Rejection → String
  | .badInteger text => "invalid Micheline integer " ++ Quoted.render text
  | .noForm => "data did not match any variant of untagged enum RawPrim"

/-- An integer, if the text is a numeral. -/
def int? (text : String) : Option Expr :=
  if Decimal.isNumeral text.toList then some (.int text) else none

/-- The texts, if all the values are strings. -/
def strings? : List Value → Option (List String)
  | [] => some []
  | .string text :: rest => (strings? rest).map (text :: ·)
  | _ => none

/-- The members of an application met so far. -/
structure AppMembers where
  name : Option String
  args : Option (List Expr)
  annots : Option (List String)

/-- The application of the members, if it has a name. -/
def AppMembers.toExpr? (m : AppMembers) : Option Expr :=
  m.name.map fun name => .app name (m.args.getD []) (m.annots.getD [])

mutual

/-- The expression a value stands for, at any depth. -/
def ofValue? : Value → Option Expr
  | .array [.string text] => int? text
  | .array [.string name, .array args] => (ofValues? args).map fun args => .app name args []
  | .array [.string name, .array args, .array annots] =>
    match ofValues? args, strings? annots with
    | some args, some annots => some (.app name args annots)
    | _, _ => none
  | .array items => (ofValues? items).map .seq
  | .object [("int", .string text)] => int? text
  | .object [("string", .string text)] => some (.string text)
  | .object [("bytes", .string hex)] => some (.bytes hex)
  | .object members => (appMembers? ⟨none, none, none⟩ members).bind AppMembers.toExpr?
  | _ => none

/-- The expressions of a list of values, if all are expressions. -/
def ofValues? : List Value → Option (List Expr)
  | [] => some []
  | v :: rest =>
    match ofValue? v, ofValues? rest with
    | some e, some es => some (e :: es)
    | _, _ => none

/-- The members of an application after those met so far, if none is foreign, repeated or of the
    wrong type. -/
def appMembers? (met : AppMembers) : List (String × Value) → Option AppMembers
  | [] => some met
  | ("prim", .string name) :: rest =>
    if met.name.isSome then none else appMembers? { met with name := some name } rest
  | ("args", .array args) :: rest =>
    if met.args.isSome then none
    else match ofValues? args with
      | some args => appMembers? { met with args := some args } rest
      | none => none
  | ("annots", .array annots) :: rest =>
    if met.annots.isSome then none
    else match strings? annots with
      | some annots => appMembers? { met with annots := some annots } rest
      | none => none
  | _ :: _ => none

end

/-- The text of the integer that a value would be if its text were a numeral. -/
def intText? : Value → Option String
  | .object [("int", .string text)] => some text
  | .array [.string text] => some text
  | _ => none

/-- The expression a value stands for. -/
def Expr.ofValue (v : Value) : Except Rejection Expr :=
  match ofValue? v with
  | some e => .ok e
  | none =>
    match intText? v with
    | some text => .error (.badInteger text)
    | none => .error .noForm

end Micheline

end ContractQuery
