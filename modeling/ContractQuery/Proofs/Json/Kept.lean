import ContractQuery.Json.Value
import ContractQuery.Proofs.NameMap
import Mathlib.Data.List.Forall2

/-!
# What is kept of a value

A value that goes into a map by name is put in order first, and so are the objects in it. This loses the
order of members, and of members with one name all but the last. It loses nothing else.

* `Keeps v kept`: what of a value is kept, at every depth. The relation says of an object which value is
  under which name, not how the members get there.
* `sorted_object`: an object in order holds under each name the last of its values.
* **`keeps_iff`**: the value in order is what is kept, and the only such value.
-/

namespace ContractQuery

namespace Json

open NameMap (valuesOf)

/-- What is kept of a value: of an array every item in its place, of an object under each name the last
    value, and all the rest as it is. -/
inductive Keeps : Value → Value → Prop
  | null : Keeps .null .null
  | bool (value : Bool) : Keeps (.bool value) (.bool value)
  | number (value : Number) : Keeps (.number value) (.number value)
  | string (text : String) : Keeps (.string text) (.string text)
  | array {items kept : List Value} (h : List.Forall₂ Keeps items kept) :
    Keeps (.array items) (.array kept)
  | object {members : List (String × Value)} {kept : NameMap Value}
    (h : ∀ name, Option.Rel Keeps (valuesOf name members).getLast? (kept.get? name)) :
    Keeps (.object members) (.object kept.entries)

/-! ## 1. Members put in order -/

theorem sortedMembers_eq (done members : List (String × Value)) :
    sortedMembers done members =
      (members.map fun m => (m.1, m.2.sorted)).foldl
        (fun entries m => NameMap.insertEntry m.1 m.2 entries) done := by
  induction members generalizing done with
  | nil => rfl
  | cons m rest ih =>
    obtain ⟨name, value⟩ := m
    rw [sortedMembers, ih]
    rfl

theorem entries_foldl_insert (m : NameMap Value) (members : List (String × Value)) :
    (members.foldl (fun m entry => m.insert entry.1 entry.2) m).entries =
      members.foldl (fun entries m => NameMap.insertEntry m.1 m.2 entries) m.entries := by
  induction members generalizing m with
  | nil => rfl
  | cons entry rest ih => exact ih (m.insert entry.1 entry.2)

/-- **An object in order holds under each name the last of its values, in order itself.** -/
theorem sorted_object (members : List (String × Value)) :
    ∃ m : NameMap Value, (Value.object members).sorted = .object m.entries ∧
      ∀ name, m.get? name = (valuesOf name members).getLast?.map Value.sorted := by
  refine ⟨NameMap.ofMembers (members.map fun m => (m.1, m.2.sorted)), ?_, fun name => ?_⟩
  · rw [Value.sorted, sortedMembers_eq, NameMap.ofMembers, entries_foldl_insert]
    rfl
  · rw [NameMap.get?_ofMembers, NameMap.valuesOf_map, List.getLast?_map]

/-- The last value under a name is that of a member. -/
theorem mem_of_getLast?_valuesOf {name : String} {members : List (String × Value)} {v : Value}
    (h : (valuesOf name members).getLast? = some v) : (name, v) ∈ members := by
  obtain ⟨before, after, hmembers, -⟩ := NameMap.getLast?_valuesOf_eq_some_iff.mp h
  rw [hmembers]
  exact List.mem_append_right _ List.mem_cons_self

/-! ## 2. What is kept is the value in order -/

/-- What is kept of an optional value, if of the value only its order is. -/
theorem rel_keeps_iff_of_forall {o kept : Option Value}
    (h : ∀ v ∈ o, ∀ {w : Value}, Keeps v w ↔ w = v.sorted) :
    Option.Rel Keeps o kept ↔ kept = o.map Value.sorted := by
  cases o with
  | none =>
    constructor
    · intro hrel
      cases hrel
      rfl
    · intro heq
      rw [heq]
      exact .none
  | some v =>
    have hv : ∀ {w : Value}, Keeps v w ↔ w = v.sorted := h v rfl
    constructor
    · intro hrel
      cases hrel with
      | some hkept => rw [Option.map_some, hv.mp hkept]
    · intro heq
      rw [heq]
      exact .some (hv.mpr rfl)

mutual

/-- **The value in order is what is kept of it, and the only such value.** -/
theorem keeps_iff : ∀ {v w : Value}, Keeps v w ↔ w = v.sorted
  | .null, _ => by
    refine ⟨fun h => ?_, fun h => h ▸ .null⟩
    cases h
    rfl
  | .bool value, _ => by
    refine ⟨fun h => ?_, fun h => h ▸ .bool value⟩
    cases h
    rfl
  | .number value, _ => by
    refine ⟨fun h => ?_, fun h => h ▸ .number value⟩
    cases h
    rfl
  | .string text, _ => by
    refine ⟨fun h => ?_, fun h => h ▸ .string text⟩
    cases h
    rfl
  | .array items, _ => by
    constructor
    · intro h
      cases h with
      | array h => rw [forall₂_keeps_iff.mp h, Value.sorted]
    · intro h
      rw [h, Value.sorted]
      exact .array (forall₂_keeps_iff.mpr rfl)
  | .object members, _ => by
    have hrel : ∀ {name : String} {kept : Option Value},
        Option.Rel Keeps (valuesOf name members).getLast? kept ↔
          kept = (valuesOf name members).getLast?.map Value.sorted :=
      rel_keeps_iff_of_forall fun v hv => members_keeps_iff members _ (mem_of_getLast?_valuesOf hv)
    obtain ⟨m, hsorted, hget⟩ := sorted_object members
    rw [hsorted]
    constructor
    · intro h
      cases h with
      | @object _ kept h =>
        have hsame : kept = m :=
          NameMap.eq_of_get? fun name => (hrel.mp (h name)).trans (hget name).symm
        rw [hsame]
    · intro h
      rw [h]
      exact .object fun name => hrel.mpr (hget name)

theorem forall₂_keeps_iff : ∀ {items kept : List Value},
    List.Forall₂ Keeps items kept ↔ kept = sortedItems items
  | [], kept => by rw [List.forall₂_nil_left_iff, sortedItems]
  | item :: rest, kept => by
    rw [List.forall₂_cons_left_iff, sortedItems]
    constructor
    · intro ⟨first, others, hfirst, hothers, hkept⟩
      rw [hkept, keeps_iff.mp hfirst, forall₂_keeps_iff.mp hothers]
    · intro h
      exact ⟨_, _, keeps_iff.mpr rfl, forall₂_keeps_iff.mpr rfl, h⟩

theorem members_keeps_iff : ∀ (members : List (String × Value)), ∀ m ∈ members,
    ∀ {w : Value}, Keeps m.2 w ↔ w = m.2.sorted
  | [] => by simp
  | (_, value) :: rest =>
    List.forall_mem_cons.mpr ⟨keeps_iff (v := value), members_keeps_iff rest⟩

end

/-- So it is of an optional value. -/
theorem rel_keeps_iff {o kept : Option Value} :
    Option.Rel Keeps o kept ↔ kept = o.map Value.sorted :=
  rel_keeps_iff_of_forall fun _ _ _ => keeps_iff

end Json

end ContractQuery
