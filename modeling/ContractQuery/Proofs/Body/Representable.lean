import ContractQuery.Proofs.Body.Strings
import ContractQuery.Proofs.Json.Magnitude

/-!
# Which texts say a value, and which value

A text of the grammar need not say a value: a string may hold half a character, a number may be beyond the
doubles, and arrays and objects may lie too deep in one another. Where none of this is so, it says one.

* `Node.Says`: what an outline says, part by part and without a reader. Of a number it is the number that
  its characters are read as.
* `Node.Representable`: every string of an outline means a text, and every number is in a range.
* **`ValueText.exists_says`**: if this is the range in which numbers are read, the outline of a text of the
  grammar says a value.
* **`decode_readValue_eq_ok_iff`**: a text is read as a value if and only if it belongs to the grammar, says
  this value and is not too deep. `readValue_of_says` and `ValueText.says_of_read` are the two directions.
* **`WithinLimits.exists_says`**: so a text of the grammar that can be represented and is not too deep is
  read. What is printed of a value without numbers is such a text (`withinLimits_text`).
-/

namespace ContractQuery

namespace Json

/-! ## 1. What an outline says -/

mutual

/-- The outline says the value. -/
inductive Node.Says : Node → Value → Prop
  | null : Node.Says .null .null
  | bool (b : Bool) : Node.Says (.bool b) (.bool b)
  | number {text : List Char} {n : Number} (h : Number.ofText text = some n) :
    Node.Says (.number text) (.number n)
  | string {s : Literal} {text : String} (h : s.Means text) : Node.Says (.string s) (.string text)
  | array {items : Items} {vs : List Value} (h : Items.Say items vs) :
    Node.Says (.array items) (.array vs)
  | object {members : Members} {ms : List (String × Value)} (h : Members.Say members ms) :
    Node.Says (.object members) (.object ms)

/-- The items say the values, one by one. -/
inductive Items.Say : Items → List Value → Prop
  | closed : Items.Say .closed []
  | item {node : Node} {v : Value} {rest : Items} {vs : List Value} (h : Node.Says node v)
    (hs : Items.Say rest vs) : Items.Say (.item node rest) (v :: vs)

/-- The members say the values under the names that the keys mean, one by one. -/
inductive Members.Say : Members → List (String × Value) → Prop
  | closed : Members.Say .closed []
  | member {key : Literal} {name : String} {node : Node} {v : Value} {rest : Members}
    {ms : List (String × Value)} (hkey : key.Means name) (h : Node.Says node v)
    (hs : Members.Say rest ms) : Members.Say (.member key node rest) ((name, v) :: ms)

end

/-- Whoever says the members of an object says each of them. -/
theorem Members.Say.exists_says {members : List (Literal × Node)} : ∀ {ms : List (String × Value)},
    (Members.ofList members).Say ms → ∀ m ∈ members, ∃ v, m.2.Says v := by
  induction members with
  | nil => simp
  | cons m rest ih =>
    intro ms h
    cases h with
    | member _ hsaid hsay => exact List.forall_mem_cons.mpr ⟨⟨_, hsaid⟩, ih hsay⟩

/-! ## 2. Outlines that can be represented -/

mutual

/-- Every string means a text, and every number is in the range. -/
def Node.Representable (range : ℚ) : Node → Prop
  | .null => True
  | .bool _ => True
  | .number text => ∀ size, HasSize text size → size ≤ range
  | .cutNumber => False
  | .string s => ∃ text, s.Means text
  | .array items => items.Representable range
  | .object members => members.Representable range
  | .stopped _ => False

/-- So is every item of the array. -/
def Items.Representable (range : ℚ) : Items → Prop
  | .closed => True
  | .stopped _ => False
  | .item node rest => node.Representable range ∧ rest.Representable range

/-- So is every member of the object. -/
def Members.Representable (range : ℚ) : Members → Prop
  | .closed => True
  | .stopped _ => False
  | .member key node rest =>
    (∃ name, key.Means name) ∧ node.Representable range ∧ rest.Representable range

end

mutual

/-- **What can be represented says a value, if it is a text of the grammar and numbers are read in the
    range.** -/
theorem ValueText.exists_says : ∀ {cs : List Char} {node : Node}, ValueText cs node →
    node.Representable Number.largestRead → ∃ v, node.Says v
  | _, _, .nullWord, _ => ⟨_, .null⟩
  | _, _, .trueWord, _ => ⟨_, .bool true⟩
  | _, _, .falseWord, _ => ⟨_, .bool false⟩
  | _, _, .number hnumber, h => by
    obtain ⟨size, hsize⟩ := hnumber.exists_size
    obtain ⟨n, hn⟩ := Number.exists_ofText hsize (h size hsize)
    exact ⟨_, .number hn⟩
  | _, _, .string _, h => by
    obtain ⟨text, htext⟩ := h
    exact ⟨_, .string htext⟩
  | _, _, .emptyArray _, _ => ⟨_, .array .closed⟩
  | _, _, .array hitems, h => by
    obtain ⟨vs, hvs⟩ := ElementsText.exists_say hitems h
    exact ⟨_, .array hvs⟩
  | _, _, .emptyObject _, _ => ⟨_, .object .closed⟩
  | _, _, .object hmembers, h => by
    obtain ⟨ms, hms⟩ := MembersText.exists_say hmembers h
    exact ⟨_, .object hms⟩

theorem ElementText.exists_says : ∀ {cs : List Char} {node : Node}, ElementText cs node →
    node.Representable Number.largestRead → ∃ v, node.Says v
  | _, _, .mk _ hvalue _, h => ValueText.exists_says hvalue h

theorem ElementsText.exists_say : ∀ {cs : List Char} {items : Items}, ElementsText cs items →
    items.Representable Number.largestRead → ∃ vs, items.Say vs
  | _, _, .one helement, h => by
    obtain ⟨v, hv⟩ := ElementText.exists_says helement h.1
    exact ⟨_, .item hv .closed⟩
  | _, _, .more helement hrest, h => by
    obtain ⟨v, hv⟩ := ElementText.exists_says helement h.1
    obtain ⟨vs, hvs⟩ := ElementsText.exists_say hrest h.2
    exact ⟨_, .item hv hvs⟩

theorem MembersText.exists_say : ∀ {cs : List Char} {members : Members}, MembersText cs members →
    members.Representable Number.largestRead → ∃ ms, members.Say ms
  | _, _, .one (.mk _ _ _ helement), h => by
    obtain ⟨⟨name, hname⟩, hvalue, -⟩ := h
    obtain ⟨v, hv⟩ := ElementText.exists_says helement hvalue
    exact ⟨_, .member hname hv .closed⟩
  | _, _, .more (.mk _ _ _ helement) hrest, h => by
    obtain ⟨⟨name, hname⟩, hvalue, hothers⟩ := h
    obtain ⟨v, hv⟩ := ElementText.exists_says helement hvalue
    obtain ⟨ms, hms⟩ := MembersText.exists_say hrest hothers
    exact ⟨_, .member hname hv hms⟩

end

mutual

/-- What is printed can be represented, for there is no number in it. -/
theorem Value.representable_outline (range : ℚ) : ∀ v : Value, v.NumberFree →
    v.outline.Representable range
  | .null, _ => trivial
  | .bool _, _ => trivial
  | .string text, _ => ⟨text, means_literalOf text⟩
  | .array items, h => by
    cases h with
    | array h => exact representable_outlineItems range items h
  | .object members, h => by
    cases h with
    | object h => exact representable_outlineMembers range members h

theorem representable_outlineItems (range : ℚ) : ∀ items : List Value, (∀ v ∈ items, v.NumberFree) →
    (outlineItems items).Representable range
  | [], _ => trivial
  | v :: rest, h =>
    ⟨v.representable_outline range (h v List.mem_cons_self),
      representable_outlineItems range rest fun w hw => h w (List.mem_cons_of_mem _ hw)⟩

theorem representable_outlineMembers (range : ℚ) : ∀ members : List (String × Value),
    (∀ m ∈ members, m.2.NumberFree) → (outlineMembers members).Representable range
  | [], _ => trivial
  | (name, v) :: rest, h =>
    ⟨⟨name, means_literalOf name⟩, v.representable_outline range (h (name, v) List.mem_cons_self),
      representable_outlineMembers range rest fun m hm => h m (List.mem_cons_of_mem _ hm)⟩

end

end Json

namespace Body

open Json (Document ElementText ElementsText HasSize Items Literal MemberText Members MembersText Node
  Number Value ValueText)

/-! ## 3. Reading -/

theorem readNumber_eq_ok_iff {text : List Char} {n : Number} :
    readNumber text = .ok n ↔ Number.ofText text = some n := by
  unfold readNumber
  cases Number.ofText text <;> simp

mutual

/-- What an outline says is read, if there is room for it. -/
theorem readValue_of_says : ∀ {room : Nat} {node : Node} {v : Value}, node.Says v →
    node.depth ≤ room → readValue room node = .ok v
  | _, _, _, .null, _ => rfl
  | _, _, _, .bool _, _ => rfl
  | _, _, _, .number h, _ => by
    rw [readValue, readNumber_eq_ok_iff.mpr h]
    rfl
  | _, _, _, .string h, _ => by
    rw [readValue, readLiteral_of_means h]
    rfl
  | room + 1, _, _, .array h, hroom => by
    rw [readValue, readItems_of_say h (Nat.le_of_succ_le_succ hroom)]
    rfl
  | room + 1, _, _, .object h, hroom => by
    rw [readValue, readMembers_of_say h (Nat.le_of_succ_le_succ hroom)]
    rfl

theorem readItems_of_say : ∀ {room : Nat} {items : Items} {vs : List Value}, items.Say vs →
    items.depth ≤ room → readItems room items = .ok vs
  | _, _, _, .closed, _ => rfl
  | _, _, _, .item h hs, hroom => by
    obtain ⟨hnode, hrest⟩ := Nat.max_le.mp hroom
    rw [readItems, readValue_of_says h hnode, readItems_of_say hs hrest]
    rfl

theorem readMembers_of_say : ∀ {room : Nat} {members : Members} {ms : List (String × Value)},
    members.Say ms → members.depth ≤ room → readMembers room members = .ok ms
  | _, _, _, .closed, _ => rfl
  | _, _, _, .member hkey h hs, hroom => by
    obtain ⟨hnode, hrest⟩ := Nat.max_le.mp hroom
    rw [readMembers, readLiteral_of_means hkey, readValue_of_says h hnode,
      readMembers_of_say hs hrest]
    rfl

end

theorem readItems_item_iff {room : Nat} {node : Node} {rest : Items} {vs : List Value} :
    readItems room (.item node rest) = .ok vs ↔ ∃ v ws, readValue room node = .ok v ∧
      readItems room rest = .ok ws ∧ v :: ws = vs := by
  simp only [readItems, bind_eq_ok_iff, return_eq_ok_iff, exists_and_left]

theorem readMembers_member_iff {room : Nat} {key : Literal} {node : Node} {rest : Members}
    {ms : List (String × Value)} : readMembers room (.member key node rest) = .ok ms ↔
      ∃ name v others, readLiteral key = .ok name ∧ readValue room node = .ok v ∧
        readMembers room rest = .ok others ∧ (name, v) :: others = ms := by
  simp only [readMembers, bind_eq_ok_iff, return_eq_ok_iff, exists_and_left]

/-- The characters of a key are read as nothing else than what it means. -/
theorem means_of_characters {cs : List Char} {pieces : List Json.Piece} {text : String}
    (hchars : Json.Characters cs pieces) (h : readLiteral ⟨pieces, none⟩ = .ok text) :
    Literal.Means ⟨pieces, none⟩ text := by
  obtain ⟨chars, hjoin, rfl⟩ := map_eq_ok_iff.mp h
  refine ⟨rfl, ?_⟩
  rw [String.toList_ofList]
  exact spells_of_joinPieces hchars.areHalves hjoin

mutual

/-- In a text of the grammar nothing else is read. -/
theorem ValueText.says_of_read : ∀ {cs : List Char} {node : Node} {room : Nat} {v : Value},
    ValueText cs node → readValue room node = .ok v → node.Says v ∧ node.depth ≤ room
  | _, _, _, _, .nullWord, h => by
    cases h
    exact ⟨.null, Nat.zero_le _⟩
  | _, _, _, _, .trueWord, h => by
    cases h
    exact ⟨.bool true, Nat.zero_le _⟩
  | _, _, _, _, .falseWord, h => by
    cases h
    exact ⟨.bool false, Nat.zero_le _⟩
  | _, _, _, _, .number _, h => by
    obtain ⟨n, hn, rfl⟩ := map_eq_ok_iff.mp h
    exact ⟨.number (readNumber_eq_ok_iff.mp hn), Nat.zero_le _⟩
  | _, _, _, _, .string hchars, h => by
    obtain ⟨text, htext, rfl⟩ := map_eq_ok_iff.mp h
    exact ⟨.string (means_of_characters hchars htext), Nat.zero_le _⟩
  | _, _, room + 1, _, .emptyArray _, h => by
    cases h
    exact ⟨.array .closed, Nat.succ_le_succ (Nat.zero_le _)⟩
  | _, _, room + 1, _, .array hitems, h => by
    obtain ⟨vs, hvs, rfl⟩ := map_eq_ok_iff.mp h
    obtain ⟨hsay, hdepth⟩ := ElementsText.say_of_read hitems hvs
    exact ⟨.array hsay, Nat.succ_le_succ hdepth⟩
  | _, _, room + 1, _, .emptyObject _, h => by
    cases h
    exact ⟨.object .closed, Nat.succ_le_succ (Nat.zero_le _)⟩
  | _, _, room + 1, _, .object hmembers, h => by
    obtain ⟨ms, hms, rfl⟩ := map_eq_ok_iff.mp h
    obtain ⟨hsay, hdepth⟩ := MembersText.say_of_read hmembers hms
    exact ⟨.object hsay, Nat.succ_le_succ hdepth⟩

theorem ElementText.says_of_read : ∀ {cs : List Char} {node : Node} {room : Nat} {v : Value},
    ElementText cs node → readValue room node = .ok v → node.Says v ∧ node.depth ≤ room
  | _, _, _, _, .mk _ hvalue _, h => ValueText.says_of_read hvalue h

theorem ElementsText.say_of_read : ∀ {cs : List Char} {items : Items} {room : Nat}
    {vs : List Value}, ElementsText cs items → readItems room items = .ok vs →
    items.Say vs ∧ items.depth ≤ room
  | _, _, _, _, .one helement, h => by
    obtain ⟨v, ws, hv, hws, rfl⟩ := readItems_item_iff.mp h
    obtain ⟨hsaid, hdepth⟩ := ElementText.says_of_read helement hv
    cases hws
    exact ⟨.item hsaid .closed, Nat.max_le.mpr ⟨hdepth, Nat.zero_le _⟩⟩
  | _, _, _, _, .more helement hrest, h => by
    obtain ⟨v, ws, hv, hws, rfl⟩ := readItems_item_iff.mp h
    obtain ⟨hsaid, hdepth⟩ := ElementText.says_of_read helement hv
    obtain ⟨hothers, hless⟩ := ElementsText.say_of_read hrest hws
    exact ⟨.item hsaid hothers, Nat.max_le.mpr ⟨hdepth, hless⟩⟩

theorem MembersText.say_of_read : ∀ {cs : List Char} {members : Members} {room : Nat}
    {ms : List (String × Value)}, MembersText cs members → readMembers room members = .ok ms →
    members.Say ms ∧ members.depth ≤ room
  | _, _, _, _, .one (.mk _ hkey _ helement), h => by
    obtain ⟨name, v, others, hname, hv, hothers, rfl⟩ := readMembers_member_iff.mp h
    obtain ⟨hsaid, hdepth⟩ := ElementText.says_of_read helement hv
    cases hothers
    exact ⟨.member (means_of_characters hkey hname) hsaid .closed,
      Nat.max_le.mpr ⟨hdepth, Nat.zero_le _⟩⟩
  | _, _, _, _, .more (.mk _ hkey _ helement) hrest, h => by
    obtain ⟨name, v, others, hname, hv, hothers, rfl⟩ := readMembers_member_iff.mp h
    obtain ⟨hsaid, hdepth⟩ := ElementText.says_of_read helement hv
    obtain ⟨hsay, hless⟩ := MembersText.say_of_read hrest hothers
    exact ⟨.member (means_of_characters hkey hname) hsaid hsay, Nat.max_le.mpr ⟨hdepth, hless⟩⟩

end

/-! ## 4. Texts -/

/-- **A text is read as a value if and only if it belongs to the grammar, says this value and is not too
    deep.** -/
theorem decode_readValue_eq_ok_iff {text : String} {v : Value} :
    decode readValue text = .ok v ↔
      ∃ node, ElementText text.toList node ∧ node.Says v ∧ node.depth ≤ deepest := by
  constructor
  · intro h
    obtain ⟨hroot, htrailing⟩ := decode_eq_ok_iff.mp h
    have hdocument : Document.ofText text = ⟨(Document.ofText text).root, false⟩ := by
      rw [← htrailing]
    have hgrammar := Json.elementText_iff.mpr ⟨hdocument, readValue_whole hroot⟩
    exact ⟨_, hgrammar, ElementText.says_of_read hgrammar hroot⟩
  · intro ⟨node, hgrammar, hsaid, hdepth⟩
    rw [decode_of_elementText readValue hgrammar]
    exact readValue_of_says hsaid hdepth

/-- The text belongs to the grammar, can be represented, and is not too deep. -/
structure WithinLimits (range : ℚ) (text : String) (node : Node) : Prop where
  grammar : ElementText text.toList node
  representable : node.Representable range
  depth : node.depth ≤ deepest

/-- **A text within the limits says a value, and is read as this value.** -/
theorem WithinLimits.exists_says {text : String} {node : Node}
    (h : WithinLimits Number.largestRead text node) :
    ∃ v, node.Says v ∧ decode readValue text = .ok v := by
  obtain ⟨v, hv⟩ := h.grammar.exists_says h.representable
  exact ⟨v, hv, decode_readValue_eq_ok_iff.mpr ⟨node, h.grammar, hv, h.depth⟩⟩

/-- The text of a value without numbers is within the limits, if the value is not too deep. -/
theorem withinLimits_text (range : ℚ) {v : Value} (h : v.NumberFree) (hdepth : v.depth ≤ deepest) :
    WithinLimits range v.text v.outline :=
  ⟨elementText_text h, v.representable_outline range h, (depth_outline h).trans_le hdepth⟩

end Body

end ContractQuery
