import ContractQuery.Body.Content
import ContractQuery.Proofs.Body.Steps
import ContractQuery.Proofs.Json.Nesting
import ContractQuery.Proofs.Json.Printing

/-!
# What a successful reading says

One lemma for each decoder that others are made of, so that nothing below has to open it again.

* `readValue_depth`: a value that was read is as deep as its outline, and no deeper than there was
  room.
* `readValue_room`: how much room there was does not matter.
* **`readValue_outline`**: the outline of a printed value is read as the value if there is room for
  it, and is refused if not.
* `decode_eq_ok_iff`, `expr_eq_ok_iff`: what it takes for a text to be decoded, and for an outline to
  be an expression.
* `record_inv`: what every field of a record keeps holds of the record's parts at the end, whether
  they came in an object or in an array.
-/

namespace ContractQuery

namespace Body

open Json (Items Members Node Value itemsDepth literalOf membersDepth nesting outlineItems
  outlineMembers)
open Micheline (Expr ofValue?)

variable {α β γ σ : Type}

/-! ## 1. Values -/

mutual

/-- **A value is as deep as its outline, and there was room for it.** -/
theorem readValue_depth : ∀ {room : Nat} {node : Node} {v : Value}, readValue room node = .ok v →
    v.depth = node.depth ∧ node.depth ≤ room
  | room, .null, v, h => by
    cases h
    exact ⟨rfl, Nat.zero_le _⟩
  | room, .bool b, v, h => by
    cases h
    exact ⟨rfl, Nat.zero_le _⟩
  | room, .number text, v, h => by
    obtain ⟨n, _, rfl⟩ := map_eq_ok_iff.mp h
    exact ⟨rfl, Nat.zero_le _⟩
  | room, .cutNumber, v, h => by cases h
  | room, .string s, v, h => by
    obtain ⟨text, _, rfl⟩ := map_eq_ok_iff.mp h
    exact ⟨rfl, Nat.zero_le _⟩
  | 0, .array items, v, h => by cases h
  | room + 1, .array items, v, h => by
    obtain ⟨vs, hvs, rfl⟩ := map_eq_ok_iff.mp h
    obtain ⟨heq, hle⟩ := readItems_depth hvs
    exact ⟨congrArg (· + 1) heq, Nat.succ_le_succ hle⟩
  | 0, .object members, v, h => by cases h
  | room + 1, .object members, v, h => by
    obtain ⟨vs, hvs, rfl⟩ := map_eq_ok_iff.mp h
    obtain ⟨heq, hle⟩ := readMembers_depth hvs
    exact ⟨congrArg (· + 1) heq, Nat.succ_le_succ hle⟩
  | room, .stopped why, v, h => by cases h

theorem readItems_depth : ∀ {room : Nat} {items : Items} {vs : List Value},
    readItems room items = .ok vs → itemsDepth vs = items.depth ∧ items.depth ≤ room
  | room, .closed, vs, h => by
    cases h
    exact ⟨rfl, Nat.zero_le _⟩
  | room, .stopped why, vs, h => by cases h
  | room, .item node rest, vs, h => by
    rw [readItems] at h
    obtain ⟨v, hv, h⟩ := bind_eq_ok_iff.mp h
    obtain ⟨ws, hws, h⟩ := bind_eq_ok_iff.mp h
    obtain rfl := return_eq_ok_iff.mp h
    obtain ⟨heq, hle⟩ := readValue_depth hv
    obtain ⟨heqs, hles⟩ := readItems_depth hws
    exact ⟨by rw [itemsDepth, Items.depth, heq, heqs], Nat.max_le.mpr ⟨hle, hles⟩⟩

theorem readMembers_depth : ∀ {room : Nat} {members : Members} {vs : List (String × Value)},
    readMembers room members = .ok vs → membersDepth vs = members.depth ∧ members.depth ≤ room
  | room, .closed, vs, h => by
    cases h
    exact ⟨rfl, Nat.zero_le _⟩
  | room, .stopped why, vs, h => by cases h
  | room, .member key node rest, vs, h => by
    rw [readMembers] at h
    obtain ⟨name, _, h⟩ := bind_eq_ok_iff.mp h
    obtain ⟨v, hv, h⟩ := bind_eq_ok_iff.mp h
    obtain ⟨ws, hws, h⟩ := bind_eq_ok_iff.mp h
    obtain rfl := return_eq_ok_iff.mp h
    obtain ⟨heq, hle⟩ := readValue_depth hv
    obtain ⟨heqs, hles⟩ := readMembers_depth hws
    exact ⟨by rw [membersDepth, Members.depth, heq, heqs], Nat.max_le.mpr ⟨hle, hles⟩⟩

end

/-! ## 2. Printed values -/

/-- A result that there has to be room for. -/
def ifRoom (room depth : Nat) (a : α) : Except Failure α :=
  if depth ≤ room then .ok a else .error .malformed

theorem ifRoom_zero (room : Nat) (a : α) : ifRoom room 0 a = .ok a := if_pos (Nat.zero_le room)

theorem ifRoom_inside (room depth : Nat) (a : α) (f : α → β) :
    f <$> ifRoom room depth a = ifRoom (room + 1) (depth + 1) (f a) := by
  unfold ifRoom
  by_cases h : depth ≤ room
  · rw [if_pos h, if_pos (Nat.succ_le_succ h)]
    rfl
  · rw [if_neg h, if_neg fun hlt => h (Nat.le_of_succ_le_succ hlt)]
    rfl

theorem ifRoom_both (room m n : Nat) (a : α) (b : β) (f : α → β → γ) :
    (do
      let x ← ifRoom room m a
      let y ← ifRoom room n b
      return f x y) = ifRoom room (max m n) (f a b) := by
  unfold ifRoom
  by_cases hm : m ≤ room
  · by_cases hn : n ≤ room
    · rw [if_pos hm, if_pos hn, if_pos (Nat.max_le.mpr ⟨hm, hn⟩)]
      rfl
    · rw [if_pos hm, if_neg hn, if_neg fun hle => hn (Nat.max_le.mp hle).2]
      rfl
  · rw [if_neg hm, if_neg fun hle => hm (Nat.max_le.mp hle).1]
    rfl

theorem joinPieces_char (cs : List Char) : joinPieces none (cs.map .char) = .ok cs := by
  induction cs with
  | nil => rfl
  | cons c rest ih =>
    rw [List.map_cons, joinPieces, ih]
    rfl

theorem readLiteral_literalOf (text : String) : readLiteral (literalOf text) = .ok text := by
  rw [readLiteral, literalOf, joinPieces_char]
  show Except.ok (String.ofList text.toList) = _
  rw [String.ofList_toList]

mutual

/-- **Where there is enough room it does not matter how much.** -/
theorem readValue_room : ∀ {room room' : Nat} {node : Node}, node.depth ≤ room → node.depth ≤ room' →
    readValue room node = readValue room' node
  | _, _, .null, _, _ => rfl
  | _, _, .bool _, _, _ => rfl
  | _, _, .number _, _, _ => rfl
  | _, _, .cutNumber, _, _ => rfl
  | _, _, .string _, _, _ => rfl
  | 0, _, .array _, h, _ => absurd h (Nat.not_succ_le_zero _)
  | _ + 1, 0, .array _, _, h => absurd h (Nat.not_succ_le_zero _)
  | room + 1, room' + 1, .array items, h, h' => by
    rw [readValue, readValue,
      readItems_room (Nat.le_of_succ_le_succ h) (Nat.le_of_succ_le_succ h')]
  | 0, _, .object _, h, _ => absurd h (Nat.not_succ_le_zero _)
  | _ + 1, 0, .object _, _, h => absurd h (Nat.not_succ_le_zero _)
  | room + 1, room' + 1, .object members, h, h' => by
    rw [readValue, readValue,
      readMembers_room (Nat.le_of_succ_le_succ h) (Nat.le_of_succ_le_succ h')]
  | _, _, .stopped _, _, _ => rfl

theorem readItems_room : ∀ {room room' : Nat} {items : Items}, items.depth ≤ room →
    items.depth ≤ room' → readItems room items = readItems room' items
  | _, _, .closed, _, _ => rfl
  | _, _, .stopped _, _, _ => rfl
  | room, room', .item node rest, h, h' => by
    obtain ⟨hnode, hrest⟩ := Nat.max_le.mp h
    obtain ⟨hnode', hrest'⟩ := Nat.max_le.mp h'
    rw [readItems, readItems, readValue_room hnode hnode', readItems_room hrest hrest']

theorem readMembers_room : ∀ {room room' : Nat} {members : Members}, members.depth ≤ room →
    members.depth ≤ room' → readMembers room members = readMembers room' members
  | _, _, .closed, _, _ => rfl
  | _, _, .stopped _, _, _ => rfl
  | room, room', .member key node rest, h, h' => by
    obtain ⟨hnode, hrest⟩ := Nat.max_le.mp h
    obtain ⟨hnode', hrest'⟩ := Nat.max_le.mp h'
    rw [readMembers, readMembers, readValue_room hnode hnode', readMembers_room hrest hrest']

end

mutual

/-- **The outline of a printed value is read as the value, if there is room.** -/
theorem readValue_outline : ∀ (room : Nat) (v : Value), v.NumberFree →
    readValue room v.outline = ifRoom room v.depth v
  | room, .null, _ => (ifRoom_zero room _).symm
  | room, .bool b, _ => (ifRoom_zero room _).symm
  | room, .string text, _ => by
    rw [Value.outline, readValue, readLiteral_literalOf]
    exact (ifRoom_zero room _).symm
  | 0, .array items, _ => rfl
  | room + 1, .array items, h => by
    cases h with
    | array h =>
      rw [Value.outline, readValue, readItems_outline room items h, ifRoom_inside]
      rfl
  | 0, .object members, _ => rfl
  | room + 1, .object members, h => by
    cases h with
    | object h =>
      rw [Value.outline, readValue, readMembers_outline room members h, ifRoom_inside]
      rfl

theorem readItems_outline : ∀ (room : Nat) (items : List Value), (∀ v ∈ items, v.NumberFree) →
    readItems room (outlineItems items) = ifRoom room (itemsDepth items) items
  | room, [], _ => (ifRoom_zero room _).symm
  | room, v :: rest, h => by
    rw [outlineItems, readItems, readValue_outline room v (h v List.mem_cons_self),
      readItems_outline room rest fun w hw => h w (List.mem_cons_of_mem _ hw)]
    exact ifRoom_both room _ _ v rest List.cons

theorem readMembers_outline : ∀ (room : Nat) (members : List (String × Value)),
    (∀ m ∈ members, m.2.NumberFree) →
    readMembers room (outlineMembers members) = ifRoom room (membersDepth members) members
  | room, [], _ => (ifRoom_zero room _).symm
  | room, (name, v) :: rest, h => by
    rw [outlineMembers, readMembers, readLiteral_literalOf,
      readValue_outline room v (h (name, v) List.mem_cons_self),
      readMembers_outline room rest fun m hm => h m (List.mem_cons_of_mem _ hm)]
    exact ifRoom_both room _ _ v rest fun v vs => (name, v) :: vs

end

theorem depth_outline {v : Value} (h : v.NumberFree) : v.outline.depth = v.depth := by
  have hread : readValue v.depth v.outline = .ok v := by
    rw [readValue_outline v.depth v h, ifRoom, if_pos (Nat.le_refl _)]
  exact (readValue_depth hread).1.symm

/-- The text of a value is as deep as the value. -/
theorem nesting_text {v : Value} (h : v.NumberFree) : nesting v.text = v.depth := by
  rw [nesting, Json.ofText_text h, depth_outline h]

/-- The text of a value is decoded as its outline is. -/
theorem decode_text (decoder : Decoder α) {v : Value} (h : v.NumberFree) :
    decode decoder v.text = decoder deepest v.outline := by
  rw [decode, Json.ofText_text h]
  cases decoder deepest v.outline <;> rfl

/-- The text of a value says that value, if there is room for it. -/
theorem decode_readValue_text {v : Value} (h : v.NumberFree) (hdepth : v.depth ≤ deepest) :
    decode readValue v.text = .ok v := by
  rw [decode_text _ h, readValue_outline _ _ h, ifRoom, if_pos hdepth]

/-! ## 3. Whole texts and expressions -/

theorem decode_eq_ok_iff {decoder : Decoder α} {text : String} {a : α} :
    decode decoder text = .ok a ↔
      decoder deepest (Json.Document.ofText text).root = .ok a ∧
        (Json.Document.ofText text).trailing = false := by
  rw [decode, bind_eq_ok_iff]
  cases (Json.Document.ofText text).trailing <;> simp [return_eq_ok_iff]

theorem ofValue_eq_ok_iff {v : Value} {e : Expr} : Expr.ofValue v = .ok e ↔ ofValue? v = some e := by
  unfold Expr.ofValue
  split
  · rename_i e' he
    simp [he]
  · rename_i hnone
    split <;> simp [hnone]

theorem expr_eq_ok_iff {room : Nat} {node : Node} {e : Expr} :
    expr room node = .ok e ↔ ∃ v, readValue room node = .ok v ∧ ofValue? v = some e := by
  rw [expr, bind_eq_ok_iff]
  refine exists_congr fun v => and_congr_right fun _ => ?_
  rw [← ofValue_eq_ok_iff]
  cases Expr.ofValue v <;> simp [return_eq_ok_iff]

theorem expr_room {room room' : Nat} {node : Node} (h : node.depth ≤ room) (h' : node.depth ≤ room') :
    expr room node = expr room' node := by
  rw [expr, expr, readValue_room h h']

/-! ## 4. Records -/

theorem enter_eq_ok_iff {room inner : Nat} : enter room = .ok inner ↔ room = inner + 1 := by
  cases room <;> simp [enter]

section Records

variable {r : Record} {fields : List (Field σ)} {P : σ → Prop}

/-- What every member keeps holds after all of them. -/
theorem eachMember_inv {take : σ → String → Node → Except Failure σ}
    (htake : ∀ {met name node met'}, P met → take met name node = .ok met' → P met') :
    ∀ {members : Members} {met met' : σ}, P met → eachMember take met members = .ok met' → P met'
  | .closed, met, met', hmet, h => by
    cases h
    exact hmet
  | .stopped why, met, met', _, h => by cases h
  | .member key node rest, met, met', hmet, h => by
    rw [eachMember] at h
    obtain ⟨name, _, h⟩ := bind_eq_ok_iff.mp h
    obtain ⟨mid, hmid, h⟩ := bind_eq_ok_iff.mp h
    exact eachMember_inv htake (htake hmet hmid) h

/-- A member of a record's object keeps what every field keeps. -/
theorem takeField_inv {room : Nat} {met met' : σ} {name : String} {node : Node}
    (hread : ∀ field ∈ fields, ∀ {met node met'}, P met →
      field.read met room node = .ok met' → P met')
    (hmet : P met) (h : takeField fields room met name node = .ok met') : P met' := by
  unfold takeField at h
  split at h
  · rename_i field hfind
    split at h
    · cases h
    · exact hread field (List.mem_of_find?_eq_some hfind) hmet h
  · obtain ⟨_, _, h⟩ := bind_eq_ok_iff.mp h
    obtain rfl := return_eq_ok_iff.mp h
    exact hmet

/-- The values of the fields in an array keep what every field keeps. -/
theorem readFields_inv : ∀ {fields : List (Field σ)} {room count : Nat} {met met' : σ}
    {items : Items}, (∀ field ∈ fields, ∀ {met node met'}, P met →
      field.read met room node = .ok met' → P met') →
    P met → readFields r room count met fields items = .ok met' → P met'
  | [], room, count, met, met', .closed, _, hmet, h => by
    cases h
    exact hmet
  | _ :: _, room, count, met, met', .closed, _, _, h => by cases h
  | [], room, count, met, met', .stopped why, _, _, h => by cases h
  | _ :: _, room, count, met, met', .stopped why, _, _, h => by cases h
  | [], room, count, met, met', .item .., _, _, h => by cases h
  | field :: fields, room, count, met, met', .item node rest, hread, hmet, h => by
    rw [readFields] at h
    obtain ⟨mid, hmid, h⟩ := bind_eq_ok_iff.mp h
    exact readFields_inv (fun f hf => hread f (List.mem_cons_of_mem _ hf))
      (hread field List.mem_cons_self hmet hmid) h

/-- **What every field keeps, where the record leaves room for it, holds of the parts of a record.** -/
theorem record_inv {start : σ} {finish : σ → Except Failure α} {room : Nat} {node : Node} {a : α}
    (hread : ∀ {inner : Nat}, room = inner + 1 → ∀ field ∈ fields, ∀ {met node met'}, P met →
      field.read met inner node = .ok met' → P met')
    (hstart : P start) (h : record r fields start finish room node = .ok a) :
    ∃ met, P met ∧ finish met = .ok a := by
  unfold record at h
  split at h
  · obtain ⟨inner, hinner, h⟩ := bind_eq_ok_iff.mp h
    obtain ⟨met, hmet, h⟩ := bind_eq_ok_iff.mp h
    exact ⟨met, readFields_inv (hread (enter_eq_ok_iff.mp hinner)) hstart hmet, h⟩
  · obtain ⟨inner, hinner, h⟩ := bind_eq_ok_iff.mp h
    obtain ⟨met, hmet, h⟩ := bind_eq_ok_iff.mp h
    have hfields := hread (enter_eq_ok_iff.mp hinner)
    exact ⟨met, eachMember_inv (takeField_inv hfields) hstart hmet, h⟩
  · cases h

theorem required_eq_ok_iff {name : String} {value : Option α} {a : α} :
    required name value = .ok a ↔ value = some a := by
  cases value <;> simp [required]

end Records

end Body

end ContractQuery
