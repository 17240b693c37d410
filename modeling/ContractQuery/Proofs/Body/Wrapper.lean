import ContractQuery.Proofs.Body.Reading

/-!
# Wrappers

A wrapper is a record with one field. Entrypoints come in such a record, and are of interest only for
what the field holds.

* `Lacks`, `HasOnce`: a name among the members of an object, not at all or just once, where the
  members of other names can be passed over.
* `Wraps`: a wrapper and what its field holds, in an object or in an array.
* **`wrapper_eq_ok_iff`**: a wrapper is read as what its field is read as, and as nothing else. So are
  entrypoints (`decode_wrappedEntrypoints_eq_ok_iff`).
-/

namespace ContractQuery

namespace Body

open Json (Items Literal Members Node)

variable {α : Type}

/-! ## 1. A name among members -/

/-- No member has the name, and all of them can be passed over. -/
inductive Lacks (name : String) : Members → Prop
  | closed : Lacks name .closed
  | other {key : Literal} {node : Node} {rest : Members} {other : String}
    (hkey : readLiteral key = .ok other) (hother : other ≠ name) (hskip : skip node = .ok ())
    (hrest : Lacks name rest) : Lacks name (.member key node rest)

/-- One member has the name, and has the value; all others can be passed over. -/
inductive HasOnce (name : String) (field : Node) : Members → Prop
  | here {key : Literal} {rest : Members} (hkey : readLiteral key = .ok name)
    (hrest : Lacks name rest) : HasOnce name field (.member key field rest)
  | other {key : Literal} {node : Node} {rest : Members} {other : String}
    (hkey : readLiteral key = .ok other) (hother : other ≠ name) (hskip : skip node = .ok ())
    (hrest : HasOnce name field rest) : HasOnce name field (.member key node rest)

/-! ## 2. The field -/

/-- The field of a wrapper. -/
def wrapped (name : String) (decoder : Decoder α) : Field (Option α) :=
  ⟨name, Option.isSome, fun _ room node => some <$> decoder room node⟩

section Step

variable {decoder : Decoder α} {room : Nat} {name other : String} {node : Node} {met met' : Option α}

/-- A member of another name is passed over. -/
theorem takeField_other_eq_ok_iff (h : other ≠ name) :
    takeField [wrapped name decoder] room met other node = .ok met' ↔
      skip node = .ok () ∧ met = met' := by
  have hfind : [wrapped name decoder].find? (·.name = other) = none :=
    List.find?_cons_of_neg (by simp [wrapped, h.symm])
  rw [takeField, hfind]
  simp only [bind_eq_ok_iff, return_eq_ok_iff]
  constructor
  · intro ⟨_, hskip, hmet⟩
    exact ⟨hskip, hmet⟩
  · intro ⟨hskip, hmet⟩
    exact ⟨(), hskip, hmet⟩

/-- A member of the name is read if there was none before. -/
theorem takeField_name_eq_ok_iff :
    takeField [wrapped name decoder] room met name node = .ok met' ↔
      met = none ∧ ∃ a, decoder room node = .ok a ∧ met' = some a := by
  have hfind : [wrapped name decoder].find? (·.name = name) = some (wrapped name decoder) :=
    List.find?_cons_of_pos (by simp [wrapped])
  rw [takeField, hfind]
  cases met with
  | some a => simp [wrapped]
  | none =>
    simp only [wrapped, Option.isSome_none, Bool.false_eq_true, ↓reduceIte, map_eq_ok_iff, true_and]
    exact exists_congr fun a => and_congr_right fun _ => eq_comm

end Step

/-! ## 3. Members -/

section Run

variable {decoder : Decoder α} {room : Nat} {name : String}

/-- Once the field was met, its name must not occur again. -/
theorem eachMember_met_eq_ok_iff {a : α} : ∀ {members : Members} {met : Option α},
    eachMember (takeField [wrapped name decoder] room) (some a) members = .ok met ↔
      Lacks name members ∧ met = some a
  | .closed, met => by
    rw [eachMember]
    constructor
    · intro h
      cases h
      exact ⟨.closed, rfl⟩
    · intro h
      obtain ⟨_, hmet⟩ := h
      rw [hmet]
  | .stopped why, met => by
    rw [eachMember]
    constructor
    · intro h
      cases h
    · intro h
      obtain ⟨h, _⟩ := h
      cases h
  | .member key node rest, met => by
    simp only [eachMember, bind_eq_ok_iff]
    constructor
    · intro h
      obtain ⟨other, hkey, mid, hmid, hrest⟩ := h
      by_cases hother : other = name
      · rw [hother, takeField_name_eq_ok_iff] at hmid
        cases hmid.1
      · obtain ⟨hskip, rfl⟩ := (takeField_other_eq_ok_iff hother).mp hmid
        obtain ⟨hlacks, hmet⟩ := eachMember_met_eq_ok_iff.mp hrest
        exact ⟨.other hkey hother hskip hlacks, hmet⟩
    · intro h
      obtain ⟨h, hmet⟩ := h
      cases h with
      | other hkey hother hskip hlacks =>
        exact ⟨_, hkey, _, (takeField_other_eq_ok_iff hother).mpr ⟨hskip, rfl⟩,
          eachMember_met_eq_ok_iff.mpr ⟨hlacks, hmet⟩⟩

/-- From the start, the field has to be met just once. -/
theorem eachMember_eq_ok_some_iff {a : α} : ∀ {members : Members},
    eachMember (takeField [wrapped name decoder] room) none members = .ok (some a) ↔
      ∃ field, HasOnce name field members ∧ decoder room field = .ok a
  | .closed => by
    rw [eachMember]
    constructor
    · intro h
      cases h
    · intro h
      obtain ⟨_, h, _⟩ := h
      cases h
  | .stopped why => by
    rw [eachMember]
    constructor
    · intro h
      cases h
    · intro h
      obtain ⟨_, h, _⟩ := h
      cases h
  | .member key node rest => by
    simp only [eachMember, bind_eq_ok_iff]
    constructor
    · intro h
      obtain ⟨other, hkey, mid, hmid, hrest⟩ := h
      by_cases hother : other = name
      · rw [hother] at hkey hmid
        obtain ⟨_, a', ha', rfl⟩ := takeField_name_eq_ok_iff.mp hmid
        obtain ⟨hlacks, hmet⟩ := eachMember_met_eq_ok_iff.mp hrest
        cases hmet
        exact ⟨node, .here hkey hlacks, ha'⟩
      · obtain ⟨hskip, rfl⟩ := (takeField_other_eq_ok_iff hother).mp hmid
        obtain ⟨field, honce, ha⟩ := eachMember_eq_ok_some_iff.mp hrest
        exact ⟨field, .other hkey hother hskip honce, ha⟩
    · intro h
      obtain ⟨field, honce, ha⟩ := h
      cases honce with
      | here hkey hlacks =>
        exact ⟨name, hkey, some a, takeField_name_eq_ok_iff.mpr ⟨rfl, a, ha, rfl⟩,
          eachMember_met_eq_ok_iff.mpr ⟨hlacks, rfl⟩⟩
      | other hkey hother hskip honce =>
        exact ⟨_, hkey, none, (takeField_other_eq_ok_iff hother).mpr ⟨hskip, rfl⟩,
          eachMember_eq_ok_some_iff.mpr ⟨field, honce, ha⟩⟩

end Run

/-! ## 4. Wrappers -/

/-- A wrapper with a field of the name, and what the field holds. -/
inductive Wraps (name : String) : Node → Node → Prop
  | object {members : Members} {field : Node} (h : HasOnce name field members) :
    Wraps name (.object members) field
  | array (field : Node) : Wraps name (.array (.item field .closed)) field

theorem readFields_wrapped_eq_ok_iff {r : Record} {decoder : Decoder α} {room count : Nat}
    {name : String} {items : Items} {a : α} :
    readFields r room count none [wrapped name decoder] items = .ok (some a) ↔
      ∃ field, items = .item field .closed ∧ decoder room field = .ok a := by
  cases items with
  | closed => simp [readFields]
  | stopped why => simp [readFields]
  | item node rest =>
    rw [readFields, wrapped]
    cases rest <;> simp [readFields, bind_eq_ok_iff]

/-- **A wrapper is read as what its field is read as, one level further inside.** -/
theorem wrapper_eq_ok_iff {r : Record} {decoder : Decoder α} {room : Nat} {name : String} {node : Node}
    {a : α} : record r [wrapped name decoder] none (required name) room node = .ok a ↔
      ∃ inner field, room = inner + 1 ∧ Wraps name node field ∧ decoder inner field = .ok a := by
  cases node with
  | array items =>
    simp only [record, bind_eq_ok_iff, enter_eq_ok_iff, required_eq_ok_iff]
    constructor
    · intro ⟨inner, hroom, met, hread, hmet⟩
      rw [hmet] at hread
      obtain ⟨field, rfl, ha⟩ := readFields_wrapped_eq_ok_iff.mp hread
      exact ⟨inner, field, hroom, .array field, ha⟩
    · intro ⟨inner, field, hroom, hwraps, ha⟩
      cases hwraps
      exact ⟨inner, hroom, some a, readFields_wrapped_eq_ok_iff.mpr ⟨field, rfl, ha⟩, rfl⟩
  | object members =>
    simp only [record, bind_eq_ok_iff, enter_eq_ok_iff, required_eq_ok_iff]
    constructor
    · intro ⟨inner, hroom, met, hread, hmet⟩
      rw [hmet] at hread
      obtain ⟨field, honce, ha⟩ := eachMember_eq_ok_some_iff.mp hread
      exact ⟨inner, field, hroom, .object honce, ha⟩
    · intro ⟨inner, field, hroom, hwraps, ha⟩
      cases hwraps with
      | object honce =>
        exact ⟨inner, hroom, some a, eachMember_eq_ok_some_iff.mpr ⟨field, honce, ha⟩, rfl⟩
  | _ =>
    constructor
    · intro h
      cases h
    · intro ⟨_, _, _, hwraps, _⟩
      cases hwraps

/-- **A text is decoded as entrypoints if and only if it is a wrapper and its field is read as
    them.** -/
theorem decode_wrappedEntrypoints_eq_ok_iff {text : String} {types : NameMap Micheline.Expr} :
    decode wrappedEntrypoints text = .ok types ↔
      ∃ field, Wraps "entrypoints" (Json.Document.ofText text).root field ∧
        entrypoints (deepest - 1) field = .ok types ∧
        (Json.Document.ofText text).trailing = false := by
  have hwrapped : wrappedEntrypoints =
    record .entrypoints [wrapped "entrypoints" entrypoints] none (required "entrypoints") := rfl
  rw [decode_eq_ok_iff, hwrapped, wrapper_eq_ok_iff]
  constructor
  · intro ⟨⟨inner, field, hroom, hwraps, htypes⟩, hend⟩
    have hinner : deepest - 1 = inner := by rw [hroom, Nat.add_sub_cancel]
    exact ⟨field, hwraps, hinner ▸ htypes, hend⟩
  · intro ⟨field, hwraps, htypes, hend⟩
    exact ⟨⟨deepest - 1, field, rfl, hwraps, htypes⟩, hend⟩

end Body

end ContractQuery
