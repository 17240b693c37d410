import ContractQuery.Proofs.Micheline.RoundTrip

/-!
# Expressions there is room for

What is read of an expression inside a larger text depends on how many arrays and objects may still
be entered.

* `Readable room e`: the expression is well formed, and its value is no deeper than there is room.
  This is what was read (`readable_of_expr`) and what is read back (`expr_outline_eq_ok_iff`).
* The same for the items of a list: `readable_of_eachItem`, `eachItem_outline_eq_ok_iff`.
* `Readable.apply`: an application may lose annotations and arguments.
-/

namespace ContractQuery

namespace Micheline

open Json (Node Value itemsDepth)

/-! ## 1. One expression -/

/-- The expression is well formed, and there is room for its value. -/
def Readable (room : Nat) (e : Expr) : Prop := e.WellFormed ∧ e.toValue.depth ≤ room

theorem readable_of_expr {room : Nat} {node : Node} {e : Expr}
    (h : Body.expr room node = .ok e) : Readable room e := by
  obtain ⟨v, hv, he⟩ := Body.expr_eq_ok_iff.mp h
  obtain ⟨hdepth, hroom⟩ := Body.readValue_depth hv
  have hdenotes := denotes_of_ofValue? he
  have hle : e.toValue.depth ≤ v.depth := hdenotes.depth_le
  exact ⟨hdenotes.wellFormed, by omega⟩

theorem expr_outline_eq_ok_iff {room : Nat} {e e' : Expr} :
    Body.expr room e.toValue.outline = .ok e' ↔ Readable room e ∧ e' = e := by
  rw [Body.expr_eq_ok_iff]
  simp only [Body.readValue_outline _ _ e.numberFree_toValue, Body.ifRoom]
  constructor
  · rintro ⟨v, hv, he⟩
    split at hv
    · rename_i hroom
      cases hv
      obtain ⟨hwf, heq⟩ := ofValue?_toValue_eq_some_iff.mp he
      exact ⟨⟨hwf, hroom⟩, heq⟩
    · cases hv
  · rintro ⟨⟨hwf, hroom⟩, heq⟩
    exact ⟨_, if_pos hroom, ofValue?_toValue_eq_some_iff.mpr ⟨hwf, heq⟩⟩

/-! ## 2. Expressions in a list -/

/-- The items of an array that were read one by one. -/
theorem readable_of_eachItem {room : Nat} : ∀ {items : Json.Items} {es : List Expr},
    Body.eachItem (Body.expr room) items = .ok es → ∀ e ∈ es, Readable room e
  | .closed, es, h => by
    cases h
    simp
  | .stopped why, es, h => by cases h
  | .item node rest, es, h => by
    rw [Body.eachItem] at h
    obtain ⟨e, he, h⟩ := Body.bind_eq_ok_iff.mp h
    obtain ⟨es', hes, h⟩ := Body.bind_eq_ok_iff.mp h
    obtain rfl := Body.return_eq_ok_iff.mp h
    exact List.forall_mem_cons.mpr ⟨readable_of_expr he, readable_of_eachItem hes⟩

theorem eachItem_outline_eq_ok_iff {room : Nat} {es es' : List Expr} :
    Body.eachItem (Body.expr room) (Json.outlineItems (toValues es)) = .ok es' ↔
      (∀ e ∈ es, Readable room e) ∧ es' = es := by
  induction es generalizing es' with
  | nil => simp [toValues, Json.outlineItems, Body.eachItem, eq_comm]
  | cons e rest ih =>
    rw [toValues, Json.outlineItems, Body.eachItem, Body.bind_eq_ok_iff, List.forall_mem_cons]
    constructor
    · rintro ⟨e', he, h⟩
      obtain ⟨rest', hrest, hes⟩ := Body.bind_eq_ok_iff.mp h
      obtain ⟨hreadable, rfl⟩ := expr_outline_eq_ok_iff.mp he
      obtain ⟨hall, rfl⟩ := ih.mp hrest
      exact ⟨⟨hreadable, hall⟩, (Body.return_eq_ok_iff.mp hes).symm⟩
    · rintro ⟨⟨hreadable, hall⟩, heq⟩
      refine ⟨e, expr_outline_eq_ok_iff.mpr ⟨hreadable, rfl⟩, Body.bind_eq_ok_iff.mpr ?_⟩
      exact ⟨rest, ih.mpr ⟨hall, rfl⟩, Body.return_eq_ok_iff.mpr heq.symm⟩

/-! ## 3. Applications with less inside -/

/-- The depth of an application. -/
theorem depth_toValue_app (name : String) (args : List Expr) (annots : List String) :
    (Expr.app name args annots).toValue.depth =
      max (if args = [] then 0 else itemsDepth (toValues args) + 1) (if annots = [] then 0 else 1) + 1 := by
  cases args <;> cases annots <;>
    simp [Expr.toValue, Value.depth, Json.membersDepth, depth_stringValues, toValues]

theorem itemsDepth_toValues_le_iff {es : List Expr} {n : Nat} :
    itemsDepth (toValues es) ≤ n ↔ ∀ e ∈ es, e.toValue.depth ≤ n := by
  induction es with
  | nil => simp [toValues, itemsDepth]
  | cons e rest ih => rw [toValues, itemsDepth, Nat.max_le, ih, List.forall_mem_cons]

/-- An application needs no more room without annotations and with only some of its arguments. -/
theorem Readable.apply {room : Nat} {name : String} {args args' : List Expr} {annots : List String}
    (h : Readable room (.app name args annots)) (hargs : ∀ e ∈ args', e ∈ args) :
    Readable room (.apply name args') := by
  obtain ⟨hwf, hroom⟩ := h
  refine ⟨Expr.wellFormed_app.mpr fun e he => Expr.wellFormed_app.mp hwf e (hargs e he), ?_⟩
  have hle : itemsDepth (toValues args') ≤ itemsDepth (toValues args) :=
    itemsDepth_toValues_le_iff.mpr fun e he =>
      itemsDepth_toValues_le_iff.mp (Nat.le_refl _) e (hargs e he)
  rw [depth_toValue_app] at hroom
  rw [Expr.apply, depth_toValue_app]
  cases args' with
  | nil =>
    simp only [↓reduceIte]
    omega
  | cons e rest =>
    have hne : args ≠ [] := List.ne_nil_of_mem (hargs e List.mem_cons_self)
    simp only [hne, reduceCtorEq, ↓reduceIte] at hroom ⊢
    omega

end Micheline

end ContractQuery
