import ContractQuery.Proofs.Micheline.Unmodified

/-!
# Different expressions are written differently

The text of an expression tells which expression it is, even of those that no reader would take: where
`Expr.invalid` stands in it, where integers are no numerals, and however deep it is. So this does not
follow from what is read back.

* `itemsUnder`: a member that was left out is as good as one with an empty array. So what an application
  is written as tells its arguments and its annotations (`itemsUnder_args`, `itemsUnder_annots`).
* `toValue_inj`: two expressions are written as the same value only if they are the same. Of an array
  the items tell, of an object the name of its first member.
* **`encode_inj`**: the same for texts, since no text was printed of two values.
-/

namespace ContractQuery

namespace Micheline

open Json (Value)

/-! ## 1. Members that may be left out -/

/-- The items of the array under a name, none where there is no such member. -/
def itemsUnder (name : String) (members : List (String × Value)) : List Value :=
  match members.lookup name with
  | some (.array items) => items
  | _ => []

theorem itemsUnder_args (args : List Expr) (annots : List String) :
    itemsUnder "args" (argsMembers args ++ annotsMembers annots) = toValues args := by
  cases args <;> cases annots <;> rfl

theorem itemsUnder_annots (args : List Expr) (annots : List String) :
    itemsUnder "annots" (argsMembers args ++ annotsMembers annots) = stringValues annots := by
  cases args <;> cases annots <;> rfl

theorem stringValues_inj {texts texts' : List String} (h : stringValues texts = stringValues texts') :
    texts = texts' :=
  (List.map_inj_right fun _ _ => Value.string.inj).mp h

/-- What an application is written as tells its name, the values of its arguments and its annotations. -/
theorem toValue_app_inj {name name' : String} {args args' : List Expr} {annots annots' : List String}
    (h : (Expr.app name args annots).toValue = (Expr.app name' args' annots').toValue) :
    name = name' ∧ toValues args = toValues args' ∧ annots = annots' := by
  rw [Expr.toValue_app, Expr.toValue_app] at h
  obtain ⟨hprim, hrest⟩ := List.cons.inj (Value.object.inj h)
  have hname : name = name' := Value.string.inj (Prod.mk.inj hprim).2
  have hargs := congrArg (itemsUnder "args") hrest
  have hannots := congrArg (itemsUnder "annots") hrest
  rw [itemsUnder_args, itemsUnder_args] at hargs
  rw [itemsUnder_annots, itemsUnder_annots] at hannots
  exact ⟨hname, hargs, stringValues_inj hannots⟩

/-! ## 2. Values -/

/-- The name of the first member of an object. -/
def firstName? : Value → Option String
  | .object ((name, _) :: _) => some name
  | _ => none

/-- The name by which an expression is known among those that are written as objects. -/
def Expr.mark? : Expr → Option String
  | .invalid => none
  | .int _ => some "int"
  | .string _ => some "string"
  | .bytes _ => some "bytes"
  | .seq _ => none
  | .app _ _ _ => some "prim"

theorem firstName?_toValue (e : Expr) : firstName? e.toValue = e.mark? := by
  cases e with
  | app name args annots =>
    rw [Expr.toValue_app]
    rfl
  | _ => rfl

/-- Expressions that are written alike are known by the same name. -/
theorem mark?_eq {a b : Expr} (h : a.toValue = b.toValue) : a.mark? = b.mark? := by
  rw [← firstName?_toValue a, h, firstName?_toValue b]

mutual

/-- **The value of an expression tells the expression.** -/
theorem toValue_inj : ∀ {a b : Expr}, a.toValue = b.toValue → a = b
  | .invalid, b, h => by
    have hmark := mark?_eq h
    cases b with
    | invalid => rfl
    | seq items => cases h
    | _ => cases hmark
  | .int text, b, h => by
    have hmark := mark?_eq h
    cases b with
    | int text' => simpa [Expr.toValue] using h
    | _ => simp [Expr.mark?] at hmark
  | .string text, b, h => by
    have hmark := mark?_eq h
    cases b with
    | string text' => simpa [Expr.toValue] using h
    | _ => simp [Expr.mark?] at hmark
  | .bytes hex, b, h => by
    have hmark := mark?_eq h
    cases b with
    | bytes hex' => simpa [Expr.toValue] using h
    | _ => simp [Expr.mark?] at hmark
  | .seq items, b, h => by
    have hmark := mark?_eq h
    cases b with
    | seq items' => rw [toValues_inj (Value.array.inj h)]
    | invalid => cases h
    | _ => cases hmark
  | .app name args annots, b, h => by
    have hmark := mark?_eq h
    cases b with
    | app name' args' annots' =>
      obtain ⟨rfl, hargs, rfl⟩ := toValue_app_inj h
      rw [toValues_inj hargs]
    | _ => simp [Expr.mark?] at hmark

theorem toValues_inj : ∀ {as bs : List Expr}, toValues as = toValues bs → as = bs
  | [], [], _ => rfl
  | [], _ :: _, h => nomatch h
  | _ :: _, [], h => nomatch h
  | a :: as, b :: bs, h => by
    obtain ⟨hfirst, hrest⟩ := List.cons.inj h
    rw [toValue_inj hfirst, toValues_inj hrest]

end

/-! ## 3. Texts -/

/-- **Two expressions have the same text if and only if they are the same, whatever they are.** -/
theorem encode_inj (a b : Expr) : a.encode = b.encode ↔ a = b := by
  refine ⟨fun h => ?_, congrArg Expr.encode⟩
  have hvalue : a.toValue = b.toValue :=
    (Json.text_inj a.numberFree_toValue b.numberFree_toValue).mp h
  exact toValue_inj hvalue

end Micheline

end ContractQuery
