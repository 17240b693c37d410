import ContractQuery.Proofs.Body.Lists
import ContractQuery.Proofs.Body.Whole
import ContractQuery.Proofs.Json.Recognition

/-!
# Reading texts of the grammar

What a decoder gets to see of a text of the grammar is a whole outline, and its arrays and objects are
lists of items and members.

* `Members.ofList`: the members of an object that was closed.
* `readValue_array_iff`, `readValue_object_iff`: arrays and objects are read item by item and member by
  member.
* **`skip_of_whole`**: whatever belongs to the grammar can be passed over, at any depth and with numbers
  of any size.
* **`readValue_error_of_whole`**: and if it is not read, it is malformed, for nothing is missing at its
  end.
* **`decode_of_elementText`**: a text of the grammar is decoded as its outline is. What is read as a body
  belongs to the grammar (`Carried.elementText`), and so does what is printed (`elementText_text`).
-/

namespace ContractQuery

namespace Json

/-- The members of an object that was closed. -/
def Members.ofList : List (Literal × Node) → Members
  | [] => .closed
  | (key, node) :: rest => .member key node (.ofList rest)

theorem Members.exists_ofList : ∀ {members : Members}, members.Whole →
    ∃ ms, members = .ofList ms
  | .closed, _ => ⟨[], rfl⟩
  | .member key node rest, h => by
    obtain ⟨ms, rfl⟩ := exists_ofList h.2.2
    exact ⟨(key, node) :: ms, rfl⟩

theorem Members.whole_ofList_iff {ms : List (Literal × Node)} :
    (Members.ofList ms).Whole ↔ ∀ m ∈ ms, m.1.stop = none ∧ m.2.Whole := by
  induction ms with
  | nil => simp [Members.ofList, Members.Whole]
  | cons m rest ih =>
    obtain ⟨key, node⟩ := m
    rw [Members.ofList, Members.Whole, ih, List.forall_mem_cons, and_assoc]

theorem Members.depth_ofList_le_iff {ms : List (Literal × Node)} {n : Nat} :
    (Members.ofList ms).depth ≤ n ↔ ∀ m ∈ ms, m.2.depth ≤ n := by
  induction ms with
  | nil => simp [Members.ofList, Members.depth]
  | cons m rest ih =>
    obtain ⟨key, node⟩ := m
    rw [Members.ofList, Members.depth, Nat.max_le, ih, List.forall_mem_cons]

end Json

namespace Body

open Json (Document ElementText Items Literal Members Node Piece Value)

variable {α σ : Type}

/-! ## 1. Arrays and objects as lists -/

/-- The members of a closed object are worked in one after the other. -/
theorem eachMember_ofList (take : σ → String → Node → Except Failure σ) (ms : List (Literal × Node))
    (met : σ) : eachMember take met (.ofList ms) =
      ms.foldlM (fun met m => do take met (← readLiteral m.1) m.2) met := by
  induction ms generalizing met with
  | nil => rfl
  | cons m rest ih =>
    obtain ⟨key, node⟩ := m
    rw [Members.ofList, eachMember, List.foldlM_cons, bind_assoc]
    refine bind_congr fun name => bind_congr fun mid => ih mid

theorem readItems_ofList_iff {room : Nat} {nodes : List Node} {vs : List Value} :
    readItems room (.ofList nodes) = .ok vs ↔
      List.Forall₂ (fun node v => readValue room node = .ok v) nodes vs := by
  induction nodes generalizing vs with
  | nil =>
    rw [Items.ofList, readItems, List.forall₂_nil_left_iff, Except.ok.injEq, eq_comm]
  | cons node rest ih =>
    rw [Items.ofList, readItems, bind_eq_ok_iff, List.forall₂_cons_left_iff]
    refine exists_congr fun v => ?_
    simp only [bind_eq_ok_iff, return_eq_ok_iff, ih]
    refine ⟨fun h => ?_, fun h => ?_⟩
    · obtain ⟨hv, ws, hws, hvs⟩ := h
      exact ⟨ws, hv, hws, hvs.symm⟩
    · obtain ⟨ws, hv, hws, hvs⟩ := h
      exact ⟨hv, ws, hws, hvs.symm⟩

/-- The member is read as a name and a value. -/
def ReadsMember (room : Nat) (m : Literal × Node) (v : String × Value) : Prop :=
  readLiteral m.1 = .ok v.1 ∧ readValue room m.2 = .ok v.2

theorem readMembers_ofList_iff {room : Nat} {ms : List (Literal × Node)}
    {vs : List (String × Value)} :
    readMembers room (.ofList ms) = .ok vs ↔ List.Forall₂ (ReadsMember room) ms vs := by
  induction ms generalizing vs with
  | nil =>
    rw [Members.ofList, readMembers, List.forall₂_nil_left_iff, Except.ok.injEq, eq_comm]
  | cons m rest ih =>
    obtain ⟨key, node⟩ := m
    rw [Members.ofList, readMembers, List.forall₂_cons_left_iff]
    simp only [bind_eq_ok_iff, return_eq_ok_iff, ih]
    refine ⟨fun h => ?_, fun h => ?_⟩
    · obtain ⟨name, hname, v, hv, ws, hws, hvs⟩ := h
      exact ⟨(name, v), ws, ⟨hname, hv⟩, hws, hvs.symm⟩
    · obtain ⟨⟨name, v⟩, ws, ⟨hname, hv⟩, hws, hvs⟩ := h
      exact ⟨name, hname, v, hv, ws, hws, hvs.symm⟩

theorem readValue_array_iff {room : Nat} {nodes : List Node} {v : Value} :
    readValue room (.array (.ofList nodes)) = .ok v ↔ ∃ inner vs, room = inner + 1 ∧
      v = .array vs ∧ List.Forall₂ (fun node v => readValue inner node = .ok v) nodes vs := by
  cases room with
  | zero => simp [readValue]
  | succ room =>
    simp only [readValue, map_eq_ok_iff, readItems_ofList_iff]
    refine ⟨fun h => ?_, fun h => ?_⟩
    · obtain ⟨vs, hvs, hv⟩ := h
      exact ⟨room, vs, rfl, hv.symm, hvs⟩
    · obtain ⟨inner, vs, hroom, hv, hvs⟩ := h
      cases hroom
      exact ⟨vs, hvs, hv.symm⟩

theorem readValue_object_iff {room : Nat} {ms : List (Literal × Node)} {v : Value} :
    readValue room (.object (.ofList ms)) = .ok v ↔ ∃ inner vs, room = inner + 1 ∧
      v = .object vs ∧ List.Forall₂ (ReadsMember inner) ms vs := by
  cases room with
  | zero => simp [readValue]
  | succ room =>
    simp only [readValue, map_eq_ok_iff, readMembers_ofList_iff]
    refine ⟨fun h => ?_, fun h => ?_⟩
    · obtain ⟨vs, hvs, hv⟩ := h
      exact ⟨room, vs, rfl, hv.symm, hvs⟩
    · obtain ⟨inner, vs, hroom, hv, hvs⟩ := h
      cases hroom
      exact ⟨vs, hvs, hv.symm⟩

/-! ## 2. What can be passed over -/

mutual

/-- **Where reading stopped nowhere, everything can be passed over.** -/
theorem skip_of_whole : ∀ {node : Node}, node.Whole → skip node = .ok ()
  | .null, _ => rfl
  | .bool _, _ => rfl
  | .number _, _ => rfl
  | .string s, h => by
    have hstop : s.stop = none := h
    rw [skip, skipLiteral, hstop]
  | .array _, h => skipItems_of_whole h
  | .object _, h => skipMembers_of_whole h

theorem skipItems_of_whole : ∀ {items : Items}, items.Whole → skipItems items = .ok ()
  | .closed, _ => rfl
  | .item node rest, h => by
    rw [skipItems, skip_of_whole h.1]
    exact skipItems_of_whole h.2

theorem skipMembers_of_whole : ∀ {members : Members}, members.Whole → skipMembers members = .ok ()
  | .closed, _ => rfl
  | .member key node rest, h => by
    rw [skipMembers, skipLiteral, h.1, skip_of_whole h.2.1]
    exact skipMembers_of_whole h.2.2

end

/-! ## 3. How whole outlines fail -/

/-- A string that has its end and is not read is malformed. -/
theorem joinPieces_error : ∀ {pieces : List Piece} {failure : Failure},
    joinPieces none pieces = .error failure → failure = .malformed
  | [], _, h => nomatch h
  | .char _ :: rest, _, h => joinPieces_error (map_eq_error_iff.mp h)
  | .highHalf _ :: .lowHalf _ :: rest, _, h => joinPieces_error (map_eq_error_iff.mp h)
  | .highHalf _ :: [], _, h => by
    cases h
    rfl
  | .highHalf _ :: .char _ :: _, _, h => by
    cases h
    rfl
  | .highHalf _ :: .highHalf _ :: _, _, h => by
    cases h
    rfl
  | .lowHalf _ :: _, _, h => by
    cases h
    rfl

theorem readLiteral_error {s : Literal} {failure : Failure} (hstop : s.stop = none)
    (h : readLiteral s = .error failure) : failure = .malformed := by
  rw [readLiteral, hstop] at h
  exact joinPieces_error (map_eq_error_iff.mp h)

theorem readNumber_error {text : List Char} {failure : Failure}
    (h : readNumber text = .error failure) : failure = .malformed := by
  unfold readNumber at h
  split at h
  · cases h
  · cases h
    rfl

mutual

/-- A whole outline that is not read is malformed: nothing is missing at its end. -/
theorem readValue_error_of_whole : ∀ {room : Nat} {node : Node} {failure : Failure}, node.Whole →
    readValue room node = .error failure → failure = .malformed
  | _, .null, _, _, h => nomatch h
  | _, .bool _, _, _, h => nomatch h
  | _, .number _, _, _, h => readNumber_error (map_eq_error_iff.mp h)
  | _, .string s, _, hwhole, h => readLiteral_error hwhole (map_eq_error_iff.mp h)
  | 0, .array _, _, _, h => by
    cases h
    rfl
  | room + 1, .array items, _, hwhole, h =>
    readItems_error_of_whole hwhole (map_eq_error_iff.mp h)
  | 0, .object _, _, _, h => by
    cases h
    rfl
  | room + 1, .object members, _, hwhole, h =>
    readMembers_error_of_whole hwhole (map_eq_error_iff.mp h)

theorem readItems_error_of_whole : ∀ {room : Nat} {items : Items} {failure : Failure}, items.Whole →
    readItems room items = .error failure → failure = .malformed
  | _, .closed, _, _, h => nomatch h
  | room, .item node rest, _, hwhole, h => by
    rw [readItems, bind_eq_error_iff] at h
    rcases h with h | ⟨v, _, h⟩
    · exact readValue_error_of_whole hwhole.1 h
    · rcases bind_eq_error_iff.mp h with h | ⟨vs, _, h⟩
      · exact readItems_error_of_whole hwhole.2 h
      · cases h

theorem readMembers_error_of_whole : ∀ {room : Nat} {members : Members} {failure : Failure},
    members.Whole → readMembers room members = .error failure → failure = .malformed
  | _, .closed, _, _, h => nomatch h
  | room, .member key node rest, _, hwhole, h => by
    rw [readMembers, bind_eq_error_iff] at h
    rcases h with h | ⟨name, _, h⟩
    · exact readLiteral_error hwhole.1 h
    rcases bind_eq_error_iff.mp h with h | ⟨v, _, h⟩
    · exact readValue_error_of_whole hwhole.2.1 h
    rcases bind_eq_error_iff.mp h with h | ⟨vs, _, h⟩
    · exact readMembers_error_of_whole hwhole.2.2 h
    · cases h

end

/-! ## 4. Texts -/

/-- What is read as a body belongs to the grammar. -/
theorem Carried.elementText (h : Carried decoder) {text : String} {a : α}
    (hread : decode decoder text = .ok a) :
    ElementText text.toList (Document.ofText text).root := by
  obtain ⟨hroot, htrailing⟩ := decode_eq_ok_iff.mp hread
  refine Json.elementText_iff.mpr ⟨?_, (h.requires hroot).1⟩
  cases hdoc : Document.ofText text with
  | mk root trailing =>
    rw [hdoc] at htrailing
    subst htrailing
    rfl

/-- What is printed belongs to the grammar. -/
theorem elementText_text {v : Value} (h : v.NumberFree) : ElementText v.text.toList v.outline := by
  have hread : readValue v.depth v.outline = .ok v := by
    rw [readValue_outline v.depth v h, ifRoom, if_pos (Nat.le_refl _)]
  exact Json.elementText_iff.mpr ⟨Json.ofText_text h, readValue_whole hread⟩

/-- The text of an outline is decoded as the outline is. -/
theorem decode_of_elementText (decoder : Decoder α) {text : String} {node : Node}
    (h : ElementText text.toList node) : decode decoder text = decoder deepest node := by
  rw [decode, Json.ofText_of_elementText h]
  cases decoder deepest node <;> rfl

end Body

end ContractQuery
