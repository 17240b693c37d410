import ContractQuery.Proofs.Body.Reading
import Mathlib.Data.List.Forall2

/-!
# Lists, item by item

A list is read if and only if its array was closed and every item of it is read, and then it holds
what the items were read as, in their order. No item is left out, and none is read past a fault.

* `forall₂_middle`: what belongs to an element of a related list.
* `Items.ofList`: the items of an array that was closed.
* `eachItem_eq_ok_iff`, **`decode_list_eq_ok_iff`**: the items of an array, and a whole text.
* `eachItem_ofList`: the items of a closed array are read one after the other, and
  `mapM_eq_error_iff`: the first of them that is not read is why the array is not.
-/

namespace ContractQuery

/-! ## 1. Related lists -/

section Related

variable {α β : Type} {R : α → β → Prop}

/-- A list that is related to two others, one behind the other, comes apart as they do. -/
theorem forall₂_append_inv {front back : List α} {bs : List β}
    (h : List.Forall₂ R (front ++ back) bs) :
    ∃ front' back', List.Forall₂ R front front' ∧ List.Forall₂ R back back' ∧
      bs = front' ++ back' := by
  induction front generalizing bs with
  | nil => exact ⟨[], bs, .nil, h, rfl⟩
  | cons x rest ih =>
    obtain ⟨y, bs', hxy, hrest, rfl⟩ := List.forall₂_cons_left_iff.mp h
    obtain ⟨front', back', hfront, hback, rfl⟩ := ih hrest
    exact ⟨y :: front', back', .cons hxy hfront, hback, rfl⟩

/-- Of a list that is related to another one, the element at a place. -/
theorem forall₂_middle {before after : List α} {a : α}
    {bs : List β} (h : List.Forall₂ R (before ++ a :: after) bs) :
    ∃ before' b after', bs = before' ++ b :: after' ∧ List.Forall₂ R before before' ∧ R a b ∧
      List.Forall₂ R after after' := by
  obtain ⟨before', rest, hbefore, hrest, rfl⟩ := forall₂_append_inv h
  obtain ⟨b, after', hab, hafter, rfl⟩ := List.forall₂_cons_left_iff.mp hrest
  exact ⟨before', b, after', rfl, hbefore, hab, hafter⟩

/-- A list has a related one if and only if each of its elements has a related one. -/
theorem exists_forall₂_iff {as : List α} :
    (∃ bs, List.Forall₂ R as bs) ↔ ∀ a ∈ as, ∃ b, R a b := by
  induction as with
  | nil => exact ⟨nofun, fun _ => ⟨[], .nil⟩⟩
  | cons a rest ih =>
    rw [List.forall_mem_cons, ← ih]
    simp only [List.forall₂_cons_left_iff]
    constructor
    · intro ⟨_, b, bs, hab, hrest, _⟩
      exact ⟨⟨b, hab⟩, bs, hrest⟩
    · intro ⟨⟨b, hab⟩, bs, hrest⟩
      exact ⟨_, b, bs, hab, hrest, rfl⟩

end Related

namespace Json

/-! ## 2. Arrays -/

/-- The items of an array that was closed. -/
def Items.ofList : List Node → Items
  | [] => .closed
  | node :: rest => .item node (.ofList rest)

end Json

namespace Body

open Json (Document Items Node)

variable {α : Type}

theorem eachItem_eq_ok_iff {read : Node → Except Failure α} : ∀ {items : Items} {as : List α},
    eachItem read items = .ok as ↔
      ∃ nodes, items = .ofList nodes ∧ List.Forall₂ (fun node a => read node = .ok a) nodes as
  | .closed, as => by
    constructor
    · intro h
      cases h
      exact ⟨[], rfl, .nil⟩
    · rintro ⟨nodes, hitems, hall⟩
      cases nodes with
      | nil =>
        cases hall
        rfl
      | cons node rest => cases hitems
  | .stopped why, as => by
    constructor
    · intro h
      cases h
    · rintro ⟨nodes, hitems, -⟩
      cases nodes <;> cases hitems
  | .item node rest, as => by
    rw [eachItem, bind_eq_ok_iff]
    constructor
    · rintro ⟨a, ha, h⟩
      obtain ⟨as', has, h⟩ := bind_eq_ok_iff.mp h
      obtain rfl := return_eq_ok_iff.mp h
      obtain ⟨nodes, rfl, hall⟩ := eachItem_eq_ok_iff.mp has
      exact ⟨node :: nodes, rfl, .cons ha hall⟩
    · rintro ⟨nodes, hitems, hall⟩
      cases hall with
      | nil => cases hitems
      | cons ha hall =>
        cases hitems
        exact ⟨_, ha, bind_eq_ok_iff.mpr ⟨_, eachItem_eq_ok_iff.mpr ⟨_, rfl, hall⟩, rfl⟩⟩

theorem list_eq_ok_iff {decoder : Decoder α} {room : Nat} {node : Node} {as : List α} :
    list decoder (room + 1) node = .ok as ↔
      ∃ nodes, node = .array (.ofList nodes) ∧
        List.Forall₂ (fun node a => decoder room node = .ok a) nodes as := by
  cases node with
  | array items =>
    simp only [list, enter, Node.array.injEq]
    exact eachItem_eq_ok_iff
  | _ => simp [list]

/-- **A text says a list if and only if it is one closed array of which every item says an element,
    and nothing follows it.** -/
theorem decode_list_eq_ok_iff {decoder : Decoder α} {text : String} {as : List α} :
    decode (list decoder) text = .ok as ↔
      ∃ nodes, Document.ofText text = ⟨.array (.ofList nodes), false⟩ ∧
        List.Forall₂ (fun node a => decoder (deepest - 1) node = .ok a) nodes as := by
  rw [decode_eq_ok_iff, deepest, list_eq_ok_iff]
  cases Document.ofText text with
  | mk root trailing =>
    simp only [Document.mk.injEq]
    constructor
    · rintro ⟨⟨nodes, hroot, hall⟩, htrailing⟩
      exact ⟨nodes, ⟨hroot, htrailing⟩, hall⟩
    · rintro ⟨nodes, ⟨hroot, htrailing⟩, hall⟩
      exact ⟨⟨nodes, hroot, hall⟩, htrailing⟩

/-! ## 3. Items one after the other -/

section Steps

variable {ε β γ : Type} {f : β → Except ε γ}

theorem mapM_eq_ok_iff {xs : List β} {ys : List γ} :
    xs.mapM f = .ok ys ↔ List.Forall₂ (fun x y => f x = .ok y) xs ys := by
  induction xs generalizing ys with
  | nil => rw [List.mapM_nil, return_eq_ok_iff, List.forall₂_nil_left_iff, eq_comm]
  | cons x rest ih =>
    rw [List.mapM_cons, bind_eq_ok_iff, List.forall₂_cons_left_iff]
    refine exists_congr fun y => ?_
    simp only [bind_eq_ok_iff, return_eq_ok_iff, ih]
    constructor
    · intro ⟨hx, zs, hzs, hys⟩
      exact ⟨zs, hx, hzs, hys.symm⟩
    · intro ⟨zs, hx, hzs, hys⟩
      exact ⟨hx, zs, hzs, hys.symm⟩

/-- **The first step that fails decides, whatever comes after it.** -/
theorem mapM_eq_error_iff {xs : List β} {e : ε} : xs.mapM f = .error e ↔
    ∃ before x after, xs = before ++ x :: after ∧ (∀ y ∈ before, ∃ z, f y = .ok z) ∧
      f x = .error e := by
  induction xs with
  | nil =>
    constructor
    · intro h
      cases h
    · intro ⟨before, x, after, hxs, _⟩
      cases before <;> cases hxs
  | cons x rest ih =>
    rw [List.mapM_cons, bind_eq_error_iff]
    have hrest : ∀ {y : γ}, (do let ys ← rest.mapM f; pure (y :: ys)) = .error e ↔
        rest.mapM f = .error e := map_eq_error_iff
    simp only [hrest, ih]
    constructor
    · rintro (hx | ⟨y, hx, before, x', after, rfl, hbefore, hx'⟩)
      · exact ⟨[], x, rest, rfl, by simp, hx⟩
      · exact ⟨x :: before, x', after, rfl, List.forall_mem_cons.mpr ⟨⟨y, hx⟩, hbefore⟩, hx'⟩
    · intro ⟨before, x', after, hxs, hbefore, hx'⟩
      cases before with
      | nil =>
        obtain ⟨rfl, rfl⟩ := List.cons.inj hxs
        exact .inl hx'
      | cons b before =>
        obtain ⟨rfl, rfl⟩ := List.cons.inj hxs
        obtain ⟨⟨y, hx⟩, hbefore⟩ := List.forall_mem_cons.mp hbefore
        exact .inr ⟨y, hx, before, x', after, rfl, hbefore, hx'⟩

/-- It comes to a result if and only if each step does. -/
theorem exists_mapM_eq_ok_iff {xs : List β} :
    (∃ ys, xs.mapM f = .ok ys) ↔ ∀ x ∈ xs, ∃ y, f x = .ok y := by
  simp only [mapM_eq_ok_iff]
  exact exists_forall₂_iff

/-- Steps that agree one by one agree as a whole. -/
theorem mapM_eq_of_forall₂ {δ : Type} {g : δ → Except ε γ} {xs : List β} {ys : List δ}
    (h : List.Forall₂ (fun x y => f x = g y) xs ys) : xs.mapM f = ys.mapM g := by
  induction h with
  | nil => rfl
  | cons hxy _ ih => rw [List.mapM_cons, List.mapM_cons, hxy, ih]

end Steps

/-- A closed array is read one item after the other. -/
theorem eachItem_ofList (read : Node → Except Failure α) (nodes : List Node) :
    eachItem read (.ofList nodes) = nodes.mapM read := by
  induction nodes with
  | nil => rfl
  | cons node rest ih => rw [Items.ofList, eachItem, ih, List.mapM_cons]

end Body

end ContractQuery
