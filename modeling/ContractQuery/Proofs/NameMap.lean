import ContractQuery.NameMap
import Mathlib.Data.List.Basic

/-!
# What a map by name holds

A map that was put together from members holds under each name the last value that came under it, and
nothing else.

* `valuesOf`: the values that members have under a name, in order.
* `get?_insert`, **`get?_ofMembers`**: one member put in, and all of them.
* `mem_entries_ofMembers_iff`, `mem_names_ofMembers_iff`: its entries and its names.
* **`eq_of_get?`**: a map is what it holds, since its names ascend.
-/

namespace ContractQuery

namespace NameMap

variable {α β : Type}

/-! ## 1. Values under a name -/

/-- The values under a name, in order. -/
def valuesOf (name : String) (members : List (String × α)) : List α :=
  (members.filter fun m => m.1 = name).map Prod.snd

theorem valuesOf_cons_self (name : String) (value : α) (rest : List (String × α)) :
    valuesOf name ((name, value) :: rest) = value :: valuesOf name rest := by
  simp [valuesOf]

theorem valuesOf_cons_of_ne {name other : String} (h : other ≠ name) (value : α)
    (rest : List (String × α)) : valuesOf name ((other, value) :: rest) = valuesOf name rest := by
  simp [valuesOf, h]

theorem valuesOf_map (name : String) (f : α → β) (members : List (String × α)) :
    valuesOf name (members.map fun m => (m.1, f m.2)) = (valuesOf name members).map f := by
  induction members with
  | nil => rfl
  | cons m rest ih =>
    obtain ⟨other, value⟩ := m
    by_cases h : other = name
    · rw [List.map_cons, h, valuesOf_cons_self, valuesOf_cons_self, ih]
      rfl
    · rw [List.map_cons, valuesOf_cons_of_ne h, valuesOf_cons_of_ne h, ih]

/-- The last value under a name is that of the last member of the name. -/
theorem getLast?_valuesOf_eq_some_iff {name : String} {members : List (String × α)} {value : α} :
    (valuesOf name members).getLast? = some value ↔ ∃ before after,
      members = before ++ (name, value) :: after ∧ name ∉ after.map Prod.fst := by
  constructor
  · intro h
    obtain ⟨front, hfront⟩ := List.getLast?_eq_some_iff.mp h
    obtain ⟨named, last, hnamed, _, hlast⟩ := List.map_eq_append_iff.mp hfront
    obtain ⟨before, rest, rfl, _, hrest⟩ := List.filter_eq_append_iff.mp hnamed
    obtain ⟨⟨name', value'⟩, tail, rfl, rfl, htail⟩ := List.map_eq_cons_iff.mp hlast
    obtain ⟨skipped, after, rfl, _, hname, hafter⟩ := List.filter_eq_cons_iff.mp hrest
    obtain rfl := of_decide_eq_true hname
    obtain rfl := List.map_eq_nil_iff.mp htail
    refine ⟨before ++ skipped, after, (List.append_assoc ..).symm, fun hmem => ?_⟩
    obtain ⟨m, hm, hname⟩ := List.mem_map.mp hmem
    exact List.filter_eq_nil_iff.mp hafter m hm (decide_eq_true hname)
  · intro ⟨before, after, hmembers, hafter⟩
    have hnone : (after.filter fun m => m.1 = name) = [] :=
      List.filter_eq_nil_iff.mpr fun m hm hname =>
        hafter (List.mem_map.mpr ⟨m, hm, of_decide_eq_true hname⟩)
    rw [hmembers]
    simp [valuesOf, hnone]

theorem getLast?_valuesOf_isSome_iff {name : String} {members : List (String × α)} :
    (∃ value, (valuesOf name members).getLast? = some value) ↔ name ∈ members.map Prod.fst := by
  rw [← Option.isSome_iff_exists, List.getLast?_isSome, valuesOf, ne_eq, List.map_eq_nil_iff,
    List.filter_eq_nil_iff, List.mem_map]
  simp only [decide_eq_true_eq, not_forall, not_not, exists_prop]

/-! ## 2. Members put in -/

theorem lookup_cons_self (name : String) (value : α) (rest : List (String × α)) :
    ((name, value) :: rest).lookup name = some value := by
  rw [List.lookup_cons, beq_self_eq_true]

theorem lookup_cons_of_ne {name other : String} (h : name ≠ other) (value : α)
    (rest : List (String × α)) : ((other, value) :: rest).lookup name = rest.lookup name := by
  rw [List.lookup_cons, beq_eq_false_iff_ne.mpr h]

/-- The value that was put in is found under its name, and the others as before. -/
theorem lookup_insertEntry (name other : String) (value : α) (entries : List (String × α)) :
    (insertEntry name value entries).lookup other =
      if other = name then some value else entries.lookup other := by
  by_cases hother : other = name
  · rw [if_pos hother, hother]
    induction entries with
    | nil => exact lookup_cons_self name value []
    | cons entry rest ih =>
      rw [insertEntry]
      by_cases hlt : name < entry.1
      · rw [if_pos hlt, lookup_cons_self]
      · rw [if_neg hlt]
        by_cases heq : name = entry.1
        · rw [if_pos heq, lookup_cons_self]
        · rw [if_neg heq, lookup_cons_of_ne heq, ih]
  · rw [if_neg hother]
    induction entries with
    | nil => exact lookup_cons_of_ne hother value []
    | cons entry rest ih =>
      rw [insertEntry]
      by_cases hlt : name < entry.1
      · rw [if_pos hlt, lookup_cons_of_ne hother]
      · rw [if_neg hlt]
        by_cases heq : name = entry.1
        · rw [if_pos heq, lookup_cons_of_ne hother, lookup_cons_of_ne (heq ▸ hother)]
        · rw [if_neg heq, List.lookup_cons, List.lookup_cons, ih]

/-- **One member.** -/
theorem get?_insert (m : NameMap α) (name other : String) (value : α) :
    (m.insert name value).get? other = if other = name then some value else m.get? other :=
  lookup_insertEntry name other value m.entries

theorem get?_foldl_insert (m : NameMap α) (members : List (String × α)) (name : String) :
    (members.foldl (fun m entry => m.insert entry.1 entry.2) m).get? name =
      (valuesOf name members).getLast?.or (m.get? name) := by
  induction members generalizing m with
  | nil => rfl
  | cons entry rest ih =>
    obtain ⟨other, value⟩ := entry
    rw [List.foldl_cons, ih, get?_insert]
    by_cases h : name = other
    · rw [if_pos h, h, valuesOf_cons_self, List.getLast?_cons]
      cases (valuesOf other rest).getLast? <;> rfl
    · rw [if_neg h, valuesOf_cons_of_ne (Ne.symm h)]

/-- **A map holds under each name the last value that came under it.** -/
theorem get?_ofMembers (members : List (String × α)) (name : String) :
    (ofMembers members).get? name = (valuesOf name members).getLast? := by
  rw [ofMembers, get?_foldl_insert]
  exact Option.or_none

/-! ## 3. Entries -/

/-- The entries of a map are what it holds. -/
theorem mem_entries_iff {m : NameMap α} {name : String} {value : α} :
    (name, value) ∈ m.entries ↔ m.get? name = some value := by
  rw [get?, List.lookup_eq_some_iff]
  constructor
  · intro h
    obtain ⟨before, after, hentries⟩ := List.append_of_mem h
    have hasc := m.ascending
    rw [hentries] at hasc
    refine ⟨before, after, hentries, fun e he => bne_iff_ne.mpr fun hname => ?_⟩
    have hlt := (List.pairwise_append.mp hasc).2.2 e he (name, value) List.mem_cons_self
    exact String.lt_irrefl _ (hname ▸ hlt)
  · intro ⟨before, after, hentries, _⟩
    rw [hentries]
    exact List.mem_append_right _ List.mem_cons_self

/-- The names of a map, in order. -/
def names (m : NameMap α) : List String := m.entries.map Prod.fst

theorem names_ascending (m : NameMap α) : m.names.Pairwise (· < ·) := List.pairwise_map.mpr m.ascending

theorem names_nodup (m : NameMap α) : m.names.Nodup := by
  show m.names.Pairwise (· ≠ ·)
  refine m.names_ascending.imp fun {a b} h heq => ?_
  rw [heq] at h
  exact String.lt_irrefl b h

/-- **The entries that members leave: each name once, with the value of its last member.** -/
theorem mem_entries_ofMembers_iff {members : List (String × α)} {name : String} {value : α} :
    (name, value) ∈ (ofMembers members).entries ↔ ∃ before after,
      members = before ++ (name, value) :: after ∧ name ∉ after.map Prod.fst := by
  rw [mem_entries_iff, get?_ofMembers, getLast?_valuesOf_eq_some_iff]

theorem mem_names_ofMembers_iff {members : List (String × α)} {name : String} :
    name ∈ (ofMembers members).names ↔ name ∈ members.map Prod.fst := by
  rw [← getLast?_valuesOf_isSome_iff, names, List.mem_map]
  simp only [← get?_ofMembers, ← mem_entries_iff]
  constructor
  · rintro ⟨⟨name, value⟩, hmem, rfl⟩
    exact ⟨value, hmem⟩
  · intro ⟨value, hmem⟩
    exact ⟨(name, value), hmem, rfl⟩

/-! ## 4. Maps that hold the same -/

theorem lookup_of_forall_lt {name : String} {entries : List (String × α)}
    (h : ∀ e ∈ entries, name < e.1) : entries.lookup name = none := by
  refine List.lookup_eq_none_iff.mpr fun e he => bne_iff_ne.mpr fun heq => ?_
  have hlt := h e he
  rw [heq] at hlt
  exact String.lt_irrefl _ hlt

/-- Under the name of the first entry something is found, and under no name before it. -/
theorem entries_eq_of_lookup : ∀ {entries entries' : List (String × α)}, Ascending entries →
    Ascending entries' → (∀ name, entries.lookup name = entries'.lookup name) → entries = entries'
  | [], [], _, _, _ => rfl
  | [], (name, value) :: rest, _, _, h => by
    have hname := h name
    rw [lookup_cons_self] at hname
    cases hname
  | (name, value) :: rest, [], _, _, h => by
    have hname := h name
    rw [lookup_cons_self] at hname
    cases hname
  | (name, value) :: rest, (name', value') :: rest', hasc, hasc', h => by
    obtain ⟨hfirst, hrest⟩ := List.pairwise_cons.mp hasc
    obtain ⟨hfirst', hrest'⟩ := List.pairwise_cons.mp hasc'
    have hlt : ¬ name < name' := by
      intro hlt
      have hname := h name
      rw [lookup_cons_self, lookup_of_forall_lt (List.forall_mem_cons.mpr
        ⟨hlt, fun e he => String.lt_trans hlt (hfirst' e he)⟩)] at hname
      cases hname
    have hlt' : ¬ name' < name := by
      intro hlt'
      have hname := h name'
      rw [lookup_cons_self, lookup_of_forall_lt (List.forall_mem_cons.mpr
        ⟨hlt', fun e he => String.lt_trans hlt' (hfirst e he)⟩)] at hname
      cases hname
    obtain rfl : name = name' :=
      String.le_antisymm (String.not_lt.mp hlt') (String.not_lt.mp hlt)
    have hvalue := h name
    rw [lookup_cons_self, lookup_cons_self] at hvalue
    obtain rfl := Option.some.inj hvalue
    have htail : ∀ other, rest.lookup other = rest'.lookup other := by
      intro other
      by_cases hother : other = name
      · rw [hother, lookup_of_forall_lt hfirst, lookup_of_forall_lt hfirst']
      · have hlookup := h other
        rw [lookup_cons_of_ne hother, lookup_cons_of_ne hother] at hlookup
        exact hlookup
    rw [entries_eq_of_lookup hrest hrest' htail]

/-- **A map is what it holds.** -/
theorem eq_of_get? {m m' : NameMap α} (h : ∀ name, m.get? name = m'.get? name) : m = m' := by
  have hentries := entries_eq_of_lookup m.ascending m'.ascending h
  cases m
  cases m'
  cases hentries
  rfl

end NameMap

end ContractQuery
