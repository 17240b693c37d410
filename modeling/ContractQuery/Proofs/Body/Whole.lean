import ContractQuery.Proofs.Body.Reading
import ContractQuery.Proofs.Json.Whole

/-!
# Only whole outlines are read

Where reading stopped in an outline every decoder fails, for it walks all of the outline, also what it
skips. And the decoders of bodies do not read a number at the root, so what they read ends with a
character of its own.

* `Decoder.Requires`: a decoder reads only outlines with some property. There is a lemma for each
  decoder that others are made of, and one for each kind of body.
* `Carried`: the decoders of bodies (**`Carried.requires`**).
* **`Carried.decode_append`**, **`Carried.decode_cut`**: behind a text that was read there may be
  blanks and nothing else, so it is no longer read when more than blanks is cut off its end.
-/

namespace ContractQuery

namespace Body

open Json (Items Literal Members Node Piece Stop Value isBlank)

variable {α σ : Type}

/-- The decoder reads only outlines that have the property. -/
def Decoder.Requires (decoder : Decoder α) (P : Node → Prop) : Prop :=
  ∀ ⦃room : Nat⦄ ⦃node : Node⦄ ⦃a : α⦄, decoder room node = .ok a → P node

/-! ## 1. Strings -/

theorem joinPieces_stop {stop : Option Stop} : ∀ {pieces : List Piece} {cs : List Char},
    joinPieces stop pieces = .ok cs → stop = none
  | [], cs, h => by
    cases stop with
    | none => rfl
    | some why => cases h
  | .char c :: rest, cs, h => by
    obtain ⟨_, hrest, _⟩ := map_eq_ok_iff.mp h
    exact joinPieces_stop hrest
  | .highHalf high :: .lowHalf low :: rest, cs, h => by
    obtain ⟨_, hrest, _⟩ := map_eq_ok_iff.mp h
    exact joinPieces_stop hrest
  | .highHalf high :: [], cs, h => by
    unfold joinPieces at h
    split at h <;> cases h
  | .highHalf high :: .char c :: rest, cs, h => by cases h
  | .highHalf high :: .highHalf high' :: rest, cs, h => by cases h
  | .lowHalf low :: rest, cs, h => by cases h

theorem readLiteral_stop {s : Literal} {text : String} (h : readLiteral s = .ok text) :
    s.stop = none := by
  obtain ⟨_, hpieces, _⟩ := map_eq_ok_iff.mp h
  exact joinPieces_stop hpieces

theorem skipLiteral_stop {s : Literal} {u : Unit} (h : skipLiteral s = .ok u) : s.stop = none := by
  unfold skipLiteral at h
  split at h
  · assumption
  · cases h

theorem string_requires : string.Requires Node.Delimited := by
  intro room node text h
  unfold string at h
  split at h
  · exact ⟨readLiteral_stop h, nofun⟩
  · cases h

/-! ## 2. Values -/

mutual

theorem readValue_whole {room : Nat} : ∀ {node : Node} {v : Value}, readValue room node = .ok v →
    node.Whole
  | .null, v, h => trivial
  | .bool b, v, h => trivial
  | .number text, v, h => trivial
  | .cutNumber, v, h => by cases h
  | .string s, v, h => by
    obtain ⟨text, htext, _⟩ := map_eq_ok_iff.mp h
    exact readLiteral_stop htext
  | .array items, v, h => by
    cases room with
    | zero => cases h
    | succ room =>
      obtain ⟨vs, hvs, _⟩ := map_eq_ok_iff.mp h
      exact readItems_whole hvs
  | .object members, v, h => by
    cases room with
    | zero => cases h
    | succ room =>
      obtain ⟨vs, hvs, _⟩ := map_eq_ok_iff.mp h
      exact readMembers_whole hvs
  | .stopped why, v, h => by cases h

theorem readItems_whole {room : Nat} : ∀ {items : Items} {vs : List Value},
    readItems room items = .ok vs → items.Whole
  | .closed, vs, h => trivial
  | .stopped why, vs, h => by cases h
  | .item node rest, vs, h => by
    rw [readItems] at h
    obtain ⟨v, hv, h⟩ := bind_eq_ok_iff.mp h
    obtain ⟨ws, hws, _⟩ := bind_eq_ok_iff.mp h
    exact ⟨readValue_whole hv, readItems_whole hws⟩

theorem readMembers_whole {room : Nat} : ∀ {members : Members} {vs : List (String × Value)},
    readMembers room members = .ok vs → members.Whole
  | .closed, vs, h => trivial
  | .stopped why, vs, h => by cases h
  | .member key node rest, vs, h => by
    rw [readMembers] at h
    obtain ⟨name, hname, h⟩ := bind_eq_ok_iff.mp h
    obtain ⟨v, hv, h⟩ := bind_eq_ok_iff.mp h
    obtain ⟨ws, hws, _⟩ := bind_eq_ok_iff.mp h
    exact ⟨readLiteral_stop hname, readValue_whole hv, readMembers_whole hws⟩

end

mutual

/-- What is skipped is walked to its end. -/
theorem skip_whole : ∀ {node : Node} {u : Unit}, skip node = .ok u → node.Whole
  | .null, u, h => trivial
  | .bool b, u, h => trivial
  | .number text, u, h => trivial
  | .cutNumber, u, h => by cases h
  | .string s, u, h => skipLiteral_stop h
  | .array items, u, h => skipItems_whole h
  | .object members, u, h => skipMembers_whole h
  | .stopped why, u, h => by cases h

theorem skipItems_whole : ∀ {items : Items} {u : Unit}, skipItems items = .ok u → items.Whole
  | .closed, u, h => trivial
  | .stopped why, u, h => by cases h
  | .item node rest, u, h => by
    rw [skipItems] at h
    obtain ⟨_, hnode, hrest⟩ := bind_eq_ok_iff.mp h
    exact ⟨skip_whole hnode, skipItems_whole hrest⟩

theorem skipMembers_whole : ∀ {members : Members} {u : Unit}, skipMembers members = .ok u →
    members.Whole
  | .closed, u, h => trivial
  | .stopped why, u, h => by cases h
  | .member key node rest, u, h => by
    rw [skipMembers] at h
    obtain ⟨_, hkey, h⟩ := bind_eq_ok_iff.mp h
    obtain ⟨_, hnode, hrest⟩ := bind_eq_ok_iff.mp h
    exact ⟨skipLiteral_stop hkey, skip_whole hnode, skipMembers_whole hrest⟩

end

/-! ## 3. Arrays, objects and records -/

theorem eachItem_whole {read : Node → Except Failure α}
    (hread : ∀ {node a}, read node = .ok a → node.Whole) : ∀ {items : Items} {as : List α},
    eachItem read items = .ok as → items.Whole
  | .closed, as, h => trivial
  | .stopped why, as, h => by cases h
  | .item node rest, as, h => by
    rw [eachItem] at h
    obtain ⟨a, ha, h⟩ := bind_eq_ok_iff.mp h
    obtain ⟨as', has, _⟩ := bind_eq_ok_iff.mp h
    exact ⟨hread ha, eachItem_whole hread has⟩

theorem eachMember_whole {take : σ → String → Node → Except Failure σ}
    (htake : ∀ {met name node met'}, take met name node = .ok met' → node.Whole) :
    ∀ {members : Members} {met met' : σ}, eachMember take met members = .ok met' → members.Whole
  | .closed, met, met', h => trivial
  | .stopped why, met, met', h => by cases h
  | .member key node rest, met, met', h => by
    rw [eachMember] at h
    obtain ⟨name, hname, h⟩ := bind_eq_ok_iff.mp h
    obtain ⟨mid, hmid, h⟩ := bind_eq_ok_iff.mp h
    exact ⟨readLiteral_stop hname, htake hmid, eachMember_whole htake h⟩

theorem list_requires {decoder : Decoder α} (h : decoder.Requires Node.Whole) :
    (list decoder).Requires Node.Delimited := by
  intro room node as hread
  unfold list at hread
  split at hread
  · obtain ⟨inner, _, hread⟩ := bind_eq_ok_iff.mp hread
    exact ⟨eachItem_whole (fun ha => h ha) hread, nofun⟩
  · cases hread

theorem map_requires {decoder : Decoder α} (h : decoder.Requires Node.Whole) :
    (map decoder).Requires Node.Delimited := by
  intro room node as hread
  unfold map at hread
  split at hread
  · obtain ⟨inner, _, hread⟩ := bind_eq_ok_iff.mp hread
    refine ⟨eachMember_whole (fun htake => ?_) hread, nofun⟩
    obtain ⟨a, ha, _⟩ := map_eq_ok_iff.mp htake
    exact h ha
  · cases hread

section Records

variable {r : Record} {fields : List (Field σ)}

theorem takeField_whole (hfields : ∀ field ∈ fields, ∀ met, (field.read met).Requires Node.Whole)
    {room : Nat} {met met' : σ} {name : String} {node : Node}
    (h : takeField fields room met name node = .ok met') : node.Whole := by
  unfold takeField at h
  split at h
  · rename_i field hfind
    split at h
    · cases h
    · exact hfields field (List.mem_of_find?_eq_some hfind) met h
  · obtain ⟨_, hskip, _⟩ := bind_eq_ok_iff.mp h
    exact skip_whole hskip

theorem readFields_whole : ∀ {fields : List (Field σ)},
    (∀ field ∈ fields, ∀ met, (field.read met).Requires Node.Whole) →
    ∀ {room count : Nat} {met met' : σ} {items : Items},
      readFields r room count met fields items = .ok met' → items.Whole
  | [], _, room, count, met, met', .closed, h => trivial
  | _ :: _, _, room, count, met, met', .closed, h => trivial
  | [], _, room, count, met, met', .stopped why, h => by cases h
  | _ :: _, _, room, count, met, met', .stopped why, h => by cases h
  | [], _, room, count, met, met', .item .., h => by cases h
  | field :: fields, hfields, room, count, met, met', .item node rest, h => by
    rw [readFields] at h
    obtain ⟨mid, hmid, h⟩ := bind_eq_ok_iff.mp h
    exact ⟨hfields field List.mem_cons_self met hmid,
      readFields_whole (fun f hf => hfields f (List.mem_cons_of_mem _ hf)) h⟩

theorem record_requires {start : σ} {finish : σ → Except Failure α}
    (hfields : ∀ field ∈ fields, ∀ met, (field.read met).Requires Node.Whole) :
    (record r fields start finish).Requires Node.Delimited := by
  intro room node a h
  unfold record at h
  split at h
  · obtain ⟨inner, _, h⟩ := bind_eq_ok_iff.mp h
    obtain ⟨met, hmet, _⟩ := bind_eq_ok_iff.mp h
    exact ⟨readFields_whole hfields hmet, nofun⟩
  · obtain ⟨inner, _, h⟩ := bind_eq_ok_iff.mp h
    obtain ⟨met, hmet, _⟩ := bind_eq_ok_iff.mp h
    exact ⟨eachMember_whole (takeField_whole hfields) hmet, nofun⟩
  · cases h

end Records

/-! ## 4. Bodies -/

theorem Decoder.Requires.whole {decoder : Decoder α} (h : decoder.Requires Node.Delimited) :
    decoder.Requires Node.Whole := fun _ _ _ hread => (h hread).1

/-- What is made of something that was read requires what that required. -/
theorem Decoder.Requires.bind {β : Type} {decoder : Decoder α} {P : Node → Prop}
    (h : decoder.Requires P) (f : α → Except Failure β) :
    Decoder.Requires (fun room node => decoder room node >>= f) P := by
  intro room node b hread
  obtain ⟨a, ha, _⟩ := bind_eq_ok_iff.mp hread
  exact h ha

theorem identifier_requires (kind : Identifier.Kind) :
    (identifier kind).Requires Node.Delimited := string_requires.bind _

theorem int64_requires : int64.Requires Node.Delimited := string_requires.bind _

/-- No expression is written as a number. -/
theorem expr_requires : expr.Requires Node.Delimited := by
  intro room node e h
  obtain ⟨v, hv, he⟩ := expr_eq_ok_iff.mp h
  refine ⟨readValue_whole hv, ?_⟩
  rintro text rfl
  obtain ⟨n, _, rfl⟩ := map_eq_ok_iff.mp hv
  cases he

theorem code_requires : code.Requires Node.Delimited := (list_requires expr_requires.whole).bind _

theorem script_requires : script.Requires Node.Delimited := by
  refine record_requires fun field hfield met => ?_
  simp only [scriptFields, List.mem_cons, List.not_mem_nil, or_false] at hfield
  rcases hfield with rfl | rfl
  · exact code_requires.whole.bind _
  · exact expr_requires.whole.bind _

theorem bigMapInfo_requires : bigMapInfo.Requires Node.Delimited := by
  refine record_requires fun field hfield met => ?_
  simp only [infoFields, List.mem_cons, List.not_mem_nil, or_false] at hfield
  rcases hfield with rfl | rfl | rfl
  · exact expr_requires.whole.bind _
  · exact expr_requires.whole.bind _
  · exact int64_requires.whole.bind _

theorem wrappedEntrypoints_requires : wrappedEntrypoints.Requires Node.Delimited := by
  refine record_requires fun field hfield met room node met' h => ?_
  obtain rfl := List.mem_singleton.mp hfield
  obtain ⟨types, htypes, _⟩ := map_eq_ok_iff.mp h
  exact (map_requires expr_requires.whole htypes).1

theorem takeNodeErrorMember_whole {room : Nat} {met met' : NodeErrorParts} {name : String}
    {node : Node} (h : takeNodeErrorMember room met name node = .ok met') : node.Whole := by
  unfold takeNodeErrorMember at h
  split at h
  · split at h
    · cases h
    · exact string_requires.whole.bind _ h
  split at h
  · split at h
    · cases h
    · exact string_requires.whole.bind _ h
  · obtain ⟨v, hv, _⟩ := bind_eq_ok_iff.mp h
    exact readValue_whole hv

theorem nodeError_requires : nodeError.Requires Node.Delimited := by
  intro room node e h
  unfold nodeError at h
  split at h
  · obtain ⟨inner, _, h⟩ := bind_eq_ok_iff.mp h
    obtain ⟨met, hmet, _⟩ := bind_eq_ok_iff.mp h
    exact ⟨eachMember_whole takeNodeErrorMember_whole hmet, nofun⟩
  · cases h

/-- The decoders of bodies: of what a node answers with, and of what it refuses with. -/
inductive Carried : {α : Type} → Decoder α → Prop
  | contracts : Carried (list (identifier .address))
  | balance : Carried string
  | script : Carried script
  | expr : Carried expr
  | entrypoints : Carried wrappedEntrypoints
  | bigMapKeys : Carried (list (identifier .exprHash))
  | bigMapInfo : Carried bigMapInfo
  | nodeErrors : Carried nodeErrors

/-- **What a body is read from is whole, and is no number.** -/
theorem Carried.requires {decoder : Decoder α} (h : Carried decoder) :
    decoder.Requires Node.Delimited := by
  cases h with
  | contracts => exact list_requires (identifier_requires .address).whole
  | balance => exact string_requires
  | script => exact script_requires
  | expr => exact expr_requires
  | entrypoints => exact wrappedEntrypoints_requires
  | bigMapKeys => exact list_requires (identifier_requires .exprHash).whole
  | bigMapInfo => exact bigMapInfo_requires
  | nodeErrors => exact list_requires nodeError_requires.whole

/-! ## 5. Texts that are cut -/

/-- **Behind a text that was read there may be blanks, and nothing else.** -/
theorem Carried.decode_append {decoder : Decoder α} (h : Carried decoder) {front : String} {a : α}
    (hread : decode decoder front = .ok a) (back : String) :
    decode decoder (front ++ back) =
      if back.toList.all isBlank then .ok a else .error .malformed := by
  obtain ⟨hroot, htrailing⟩ := decode_eq_ok_iff.mp hread
  rw [decode, Json.ofText_append (h.requires hroot) htrailing back]
  simp only [hroot]
  cases back.toList.all isBlank <;> rfl

/-- **A text that was read is no longer read when something other than blanks is cut off its end.** -/
theorem Carried.decode_cut {decoder : Decoder α} (h : Carried decoder) {front back : String}
    {c : Char} (hc : c ∈ back.toList) (hblank : isBlank c = false) {a : α}
    (hread : decode decoder (front ++ back) = .ok a) :
    ∃ failure, decode decoder front = .error failure := by
  cases hfront : decode decoder front with
  | error failure => exact ⟨failure, rfl⟩
  | ok b =>
    have hnot : ¬ back.toList.all isBlank = true := fun hall => by
      rw [List.all_eq_true.mp hall c hc] at hblank
      cases hblank
    rw [h.decode_append hfront, if_neg hnot] at hread
    cases hread

/-- A number goes on with the next digit, so this is not true of every decoder. -/
example : (decode readValue "4").isOk = true ∧ (decode readValue ("4" ++ "2")).isOk = true := by
  decide +kernel

end Body

end ContractQuery
