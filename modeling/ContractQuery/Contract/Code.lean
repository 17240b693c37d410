import ContractQuery.Micheline.Expr

/-!
# The code of a contract

The code of a contract is a list of sections: applications named `parameter`, `storage`, `code` and
`view`. `Code` holds what they say.

* `Code.ofSections` takes the sections in order. A later section replaces an earlier one of its name;
  views are kept, all of them. The first element that is no such section is reported and nothing is
  kept (`UnexpectedSection`).
* Of a section only the first argument is kept; where there is none, `Expr.invalid` stands. A view
  keeps all its arguments. Annotations of sections are not kept.
* `Code.toSections` lists the sections again: parameter, storage, code, and then the views.
-/

namespace ContractQuery

namespace Contract

open Micheline (Expr)

/-- What the sections of a contract say. -/
structure Code where
  /-- The argument of the section `parameter`. -/
  paramType : Expr
  /-- The argument of the section `storage`. -/
  storageType : Expr
  /-- The argument of the section `code`. -/
  body : Expr
  /-- The sections `view`. -/
  views : List Expr
  deriving DecidableEq

/-- The code of no sections. -/
def Code.empty : Code := ⟨.invalid, .invalid, .invalid, []⟩

/-- An element of the code that is no section: its name if it is an application, else the whole of
    it. -/
structure UnexpectedSection where
  shown : String

/-- The element in words. -/
def UnexpectedSection.message (e : UnexpectedSection) : String :=
  "unexpected script section " ++ Quoted.render e.shown

/-- The first argument of a section. -/
def firstArg (args : List Expr) : Expr := args.head?.getD .invalid

/-- One more section. -/
def Code.addSection (code : Code) : Expr → Except UnexpectedSection Code
  | .app name args _ =>
    if name = "parameter" then .ok { code with paramType := firstArg args }
    else if name = "storage" then .ok { code with storageType := firstArg args }
    else if name = "code" then .ok { code with body := firstArg args }
    else if name = "view" then .ok { code with views := code.views ++ [.apply "view" args] }
    else .error ⟨name⟩
  | e => .error ⟨e.inspect⟩

/-- The code after some more sections. -/
def Code.addSections (code : Code) : List Expr → Except UnexpectedSection Code
  | [] => .ok code
  | e :: rest =>
    match code.addSection e with
    | .ok code => code.addSections rest
    | .error fault => .error fault

/-- The code of a list of sections. -/
def Code.ofSections (sections : List Expr) : Except UnexpectedSection Code :=
  Code.empty.addSections sections

/-- The sections of the code. -/
def Code.toSections (code : Code) : List Expr :=
  [.apply "parameter" [code.paramType], .apply "storage" [code.storageType],
    .apply "code" [code.body]] ++ code.views

end Contract

end ContractQuery
