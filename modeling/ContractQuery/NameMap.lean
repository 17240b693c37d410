/-!
# Maps ordered by name

The node sends objects whose member names are data: entrypoints, details of an error. `NameMap`
keeps each name once, in ascending order of the names (code point by code point, which is also the
order of their UTF-8 bytes).

* `NameMap.insert` puts a value under a name, in place of the one that was there.
* `NameMap.ofMembers` inserts members one after the other, so the last one of a name stays.
-/

namespace ContractQuery

namespace NameMap

variable {α : Type}

/-! ## 1. Entries in order -/

/-- The names ascend. -/
def Ascending (entries : List (String × α)) : Prop := entries.Pairwise fun a b => a.1 < b.1

/-- Entries in order with a value put under a name. -/
def insertEntry (name : String) (value : α) : List (String × α) → List (String × α)
  | [] => [(name, value)]
  | entry :: rest =>
    if name < entry.1 then (name, value) :: entry :: rest
    else if name = entry.1 then (name, value) :: rest
    else entry :: insertEntry name value rest

/-- The names after an insertion: the new one and those from before. -/
theorem mem_insertEntry {name : String} {value : α} {entries : List (String × α)}
    {e : String × α} (h : e ∈ insertEntry name value entries) :
    e = (name, value) ∨ e ∈ entries := by
  induction entries with
  | nil => simpa [insertEntry] using h
  | cons entry rest ih =>
    unfold insertEntry at h
    split at h
    · simpa using h
    · split at h
      · rcases List.mem_cons.mp h with h | h
        · exact .inl h
        · exact .inr (List.mem_cons_of_mem _ h)
      · rcases List.mem_cons.mp h with h | h
        · exact .inr (h ▸ List.mem_cons_self)
        · exact (ih h).imp id (List.mem_cons_of_mem _)

/-- Of two different names one comes first. -/
theorem lt_of_not_lt_of_ne {a b : String} (h : ¬ a < b) (hne : a ≠ b) : b < a := by
  have hle : b ≤ a := String.not_lt.mp h
  exact Decidable.byContradiction fun hlt =>
    hne (String.le_antisymm (String.not_lt.mp hlt) hle)

/-- An insertion keeps the order. -/
theorem ascending_insertEntry (name : String) (value : α) {entries : List (String × α)}
    (h : Ascending entries) : Ascending (insertEntry name value entries) := by
  induction entries with
  | nil => simp [Ascending, insertEntry]
  | cons entry rest ih =>
    have hrest : Ascending rest := (List.pairwise_cons.mp h).2
    have hhead : ∀ e ∈ rest, entry.1 < e.1 := (List.pairwise_cons.mp h).1
    unfold insertEntry
    split
    · rename_i hlt
      refine List.pairwise_cons.mpr ⟨fun e he => ?_, h⟩
      rcases List.mem_cons.mp he with rfl | he
      · exact hlt
      · exact String.lt_trans hlt (hhead e he)
    · rename_i hnlt
      split
      · rename_i heq
        exact List.pairwise_cons.mpr ⟨fun e he => by rw [heq]; exact hhead e he, hrest⟩
      · rename_i hne
        refine List.pairwise_cons.mpr ⟨fun e he => ?_, ih hrest⟩
        rcases mem_insertEntry he with rfl | he
        · exact lt_of_not_lt_of_ne hnlt hne
        · exact hhead e he

end NameMap

/-! ## 2. The map -/

/-- Values under names; each name once, the names ascending. -/
structure NameMap (α : Type) where
  entries : List (String × α)
  ascending : NameMap.Ascending entries

namespace NameMap

variable {α : Type}

/-- No names. -/
def empty : NameMap α := ⟨[], .nil⟩

/-- A value put under a name. -/
def insert (m : NameMap α) (name : String) (value : α) : NameMap α :=
  ⟨insertEntry name value m.entries, ascending_insertEntry name value m.ascending⟩

/-- The value under a name. -/
def get? (m : NameMap α) (name : String) : Option α := m.entries.lookup name

/-- The members put in one after the other. -/
def ofMembers (members : List (String × α)) : NameMap α :=
  members.foldl (fun m entry => m.insert entry.1 entry.2) empty

end NameMap

end ContractQuery
