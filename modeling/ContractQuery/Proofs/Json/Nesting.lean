import ContractQuery.Body.Decoder

/-!
# How deep arrays and objects lie in one another

The reader enters only so many arrays and objects at a time. This file counts them, on both sides of
reading:

* `Value.depth` counts in a value, `Node.depth` in an outline;
* `nesting` counts in a text, by its outline: it exists for every text, well formed or not;
* `Value.nodes` lists what lies in a value, at any depth.
-/

namespace ContractQuery

namespace Json

/-! ## 1. Values -/

mutual

/-- The number of arrays and objects that lie in one another in a value. -/
def Value.depth : Value → Nat
  | .array items => itemsDepth items + 1
  | .object members => membersDepth members + 1
  | _ => 0

/-- The depth of the deepest item. -/
def itemsDepth : List Value → Nat
  | [] => 0
  | item :: rest => max item.depth (itemsDepth rest)

/-- The depth of the deepest value of a member. -/
def membersDepth : List (String × Value) → Nat
  | [] => 0
  | (_, value) :: rest => max value.depth (membersDepth rest)

end

theorem membersDepth_le_iff {members : List (String × Value)} {n : Nat} :
    membersDepth members ≤ n ↔ ∀ m ∈ members, m.2.depth ≤ n := by
  induction members with
  | nil => simp [membersDepth]
  | cons m rest ih =>
    obtain ⟨name, v⟩ := m
    rw [membersDepth, Nat.max_le, ih, List.forall_mem_cons]

mutual

/-- The value and everything inside it. -/
def Value.nodes : Value → List Value
  | .array items => .array items :: nodesOfItems items
  | .object members => .object members :: nodesOfMembers members
  | v => [v]

/-- The nodes of all items of an array. -/
def nodesOfItems : List Value → List Value
  | [] => []
  | item :: rest => item.nodes ++ nodesOfItems rest

/-- The nodes of the values of all members of an object. -/
def nodesOfMembers : List (String × Value) → List Value
  | [] => []
  | (_, value) :: rest => value.nodes ++ nodesOfMembers rest

end

theorem mem_nodesOfItems {items : List Value} {w : Value} :
    w ∈ nodesOfItems items ↔ ∃ v ∈ items, w ∈ v.nodes := by
  induction items with
  | nil => simp [nodesOfItems]
  | cons v rest ih => simp [nodesOfItems, ih]

theorem mem_nodesOfMembers {members : List (String × Value)} {w : Value} :
    w ∈ nodesOfMembers members ↔ ∃ m ∈ members, w ∈ m.2.nodes := by
  induction members with
  | nil => simp [nodesOfMembers]
  | cons m rest ih =>
    obtain ⟨name, v⟩ := m
    simp [nodesOfMembers, ih]

/-! ## 2. Outlines and texts -/

mutual

/-- The number of arrays and objects that lie in one another in an outline, those included that
    reading stopped in. -/
def Node.depth : Node → Nat
  | .array items => items.depth + 1
  | .object members => members.depth + 1
  | _ => 0

/-- The depth of the deepest item. -/
def Items.depth : Items → Nat
  | .item value rest => max value.depth rest.depth
  | _ => 0

/-- The depth of the deepest value of a member. -/
def Members.depth : Members → Nat
  | .member _ value rest => max value.depth rest.depth
  | _ => 0

end

/-- The number of arrays and objects that lie in one another in a text. -/
def nesting (text : String) : Nat := (Document.ofText text).root.depth

end Json

end ContractQuery
