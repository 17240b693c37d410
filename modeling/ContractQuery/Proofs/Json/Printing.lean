import ContractQuery.Json.Reading
import ContractQuery.Json.Value

/-!
# Printed values are read as they were

`Value.outline` is the outline that a printed value should have. The reader is followed character by
character through what the printer writes:

* `Scan.run_escaped`: inside a string, what was escaped comes back as it was;
* `run_print`: where a value has to come, a printed one brings its outline to that place. A value is
  printed inside brackets and braces that are not closed yet, so this is said of every `Place`;
* **`ofText_text`**: the text of a value has the outline of the value, and nothing trails it;
* **`text_inj`**: so different values have different texts.

Numbers are left out (`Value.NumberFree`): no expression is written with one.
-/

namespace ContractQuery

namespace Json

/-! ## 1. What a printed value should be read as -/

/-- The outline of a string. -/
def literalOf (text : String) : Literal := ⟨text.toList.map .char, none⟩

mutual

/-- The outline of a value. -/
def Value.outline : Value → Node
  | .null => .null
  | .bool b => .bool b
  | .number n => .number n.text
  | .string text => .string (literalOf text)
  | .array items => .array (outlineItems items)
  | .object members => .object (outlineMembers members)

/-- The outline of the items of an array. -/
def outlineItems : List Value → Items
  | [] => .closed
  | v :: rest => .item v.outline (outlineItems rest)

/-- The outline of the members of an object. -/
def outlineMembers : List (String × Value) → Members
  | [] => .closed
  | (name, v) :: rest => .member (literalOf name) v.outline (outlineMembers rest)

end

/-- No number stands in the value. -/
inductive Value.NumberFree : Value → Prop
  | null : NumberFree .null
  | bool (b : Bool) : NumberFree (.bool b)
  | string (text : String) : NumberFree (.string text)
  | array {items : List Value} (h : ∀ v ∈ items, NumberFree v) : NumberFree (.array items)
  | object {members : List (String × Value)} (h : ∀ m ∈ members, NumberFree m.2) :
    NumberFree (.object members)

/-! ## 2. Strings -/

/-- What some more characters make of a string, as long as it neither ends nor goes wrong. -/
def Scan.run (s : Scan) : List Char → Option Scan
  | [] => some s
  | c :: rest =>
    match s.step c with
    | .more s => s.run rest
    | .closed => none
    | .malformed => none

theorem Scan.run_more {s t : Scan} {c : Char} (h : s.step c = .more t) (rest : List Char) :
    s.run (c :: rest) = t.run rest := by
  simp only [Scan.run, h]

theorem Scan.run_append {s t : Scan} {front : List Char} (h : s.run front = some t)
    (back : List Char) : s.run (front ++ back) = t.run back := by
  induction front generalizing s with
  | nil =>
    cases h
    rfl
  | cons c rest ih =>
    simp only [List.cons_append, Scan.run] at h ⊢
    split at h
    · exact ih h
    · cases h
    · cases h

theorem Scan.step_hex_more {seen : List Char} {c : Char} (h : byteCount (c :: seen) < 4)
    (done : List Piece) : (Scan.hex done seen).step c = .more (.hex done (c :: seen)) := by
  simp only [Scan.step, h, ↓reduceIte]

theorem Scan.step_hex_last {seen : List Char} {c : Char} {piece : Piece}
    (hlong : ¬ byteCount (c :: seen) < 4) (h : Piece.ofHex? (c :: seen) = some piece)
    (done : List Piece) : (Scan.hex done seen).step c = .more (.plain (piece :: done)) := by
  simp only [Scan.step, hlong, h, ↓reduceIte]

/-- The four digits of a control character: three of them are too few, and all four are read as
    the character. -/
theorem control_digits : ∀ n < 32,
    byteCount [Nat.digitChar (n / 16), '0', '0'] < 4 ∧
    ¬ byteCount [Nat.digitChar (n % 16), Nat.digitChar (n / 16), '0', '0'] < 4 ∧
    Piece.ofHex? [Nat.digitChar (n % 16), Nat.digitChar (n / 16), '0', '0'] =
      some (.char (Char.ofNat n)) := by
  decide

theorem Scan.run_control (done : List Piece) {c : Char} (hc : c.toNat < 0x20) :
    (Scan.plain done).run
        ['\\', 'u', '0', '0', Nat.digitChar (c.toNat / 16), Nat.digitChar (c.toNat % 16)] =
      some (.plain (.char c :: done)) := by
  -- the two zeros are the same for all control characters, the digits after them are not
  obtain ⟨hthree, hfour, hpiece⟩ := control_digits c.toNat hc
  rw [Char.ofNat_toNat] at hpiece
  rw [Scan.run_more (t := .escape done) rfl, Scan.run_more (t := .hex done []) rfl,
    Scan.run_more (Scan.step_hex_more (by decide) done),
    Scan.run_more (Scan.step_hex_more (by decide) done),
    Scan.run_more (Scan.step_hex_more hthree done),
    Scan.run_more (Scan.step_hex_last hfour hpiece done)]
  rfl

/-- **One character, escaped and read.** -/
theorem Scan.run_escapeChar (done : List Piece) (c : Char) :
    (Scan.plain done).run (escapeChar c) = some (.plain (.char c :: done)) := by
  unfold escapeChar
  split
  · subst_vars; rfl
  split
  · subst_vars; rfl
  split
  · subst_vars; rfl
  split
  · subst_vars; rfl
  split
  · subst_vars; rfl
  split
  · subst_vars; rfl
  split
  · subst_vars; rfl
  split
  · rename_i hc
    exact Scan.run_control done hc
  · rename_i hquote hback _ _ _ _ _ hc
    simp only [Scan.run, Scan.step, hquote, hback, hc, ↓reduceIte]

/-- Many characters, escaped and read. -/
theorem Scan.run_escaped (done : List Piece) (cs : List Char) :
    (Scan.plain done).run (cs.flatMap escapeChar) =
      some (.plain ((cs.map .char).reverse ++ done)) := by
  induction cs generalizing done with
  | nil => rfl
  | cons c rest ih =>
    rw [List.flatMap_cons, Scan.run_append (Scan.run_escapeChar done c), ih]
    simp

/-! ## 3. Values -/

theorem State.run_append (s : State) (front back : List Char) :
    s.run (front ++ back) = (s.run front).run back := List.foldl_append

theorem State.run_cons (s : State) (c : Char) (rest : List Char) :
    s.run (c :: rest) = (s.step c).run rest := rfl

/-- Where a string is read inside something, it is read as a string. -/
theorem State.run_inside (inside : Scan → State)
    (hinside : ∀ {s s' : Scan} {c : Char}, s.step c = .more s' → (inside s).step c = inside s')
    {s t : Scan} {cs : List Char} (h : s.run cs = some t) : (inside s).run cs = inside t := by
  induction cs generalizing s with
  | nil =>
    cases h
    rfl
  | cons c rest ih =>
    simp only [Scan.run] at h
    split at h
    · rename_i s' hs
      rw [State.run_cons, hinside hs]
      exact ih h
    · cases h
    · cases h

theorem State.run_string {s t : Scan} {cs : List Char} (h : s.run cs = some t) (place : Place) :
    (State.string s place).run cs = .string t place :=
  State.run_inside (State.string · place) (fun hs => by simp only [State.step, hs]) h

theorem State.run_key {s t : Scan} {cs : List Char} (h : s.run cs = some t)
    (done : List (Literal × Node)) (outer : Place) :
    (State.key s done outer).run cs = .key t done outer :=
  State.run_inside (State.key · done outer) (fun hs => by simp only [State.step, hs]) h

theorem literal_plain (text : String) :
    (Scan.plain ((text.toList.map .char).reverse ++ [])).literal none = literalOf text := by
  simp [Scan.literal, Scan.done, literalOf]

/-- A printed string where a value has to come. -/
theorem run_printString (text : String) (place : Place) :
    (State.value place).run (printString text) = place.plug (.string (literalOf text)) := by
  have hscan := Scan.run_escaped [] text.toList
  rw [printString, List.cons_append, State.run_cons, State.run_append]
  show ((State.string (.plain []) place).run _).run _ = _
  rw [State.run_string hscan, ← literal_plain]
  rfl

/-- A printed name and its colon, where `before` takes the quote of a key. -/
theorem run_printName (name : String) {before : State} {done : List (Literal × Node)}
    {outer : Place} (h : before.step '"' = .key (.plain []) done outer) (rest : List Char) :
    before.run (printString name ++ ':' :: rest) =
      (State.value (.member done (literalOf name) outer)).run rest := by
  have hscan := Scan.run_escaped [] name.toList
  rw [printString, List.append_assoc, List.cons_append, List.cons_append, State.run_cons, h,
    State.run_append, State.run_key hscan, ← literal_plain]
  rfl

/-- A printed value begins with a character that is no blank and closes no array. -/
theorem print_eq_cons {v : Value} (h : v.NumberFree) :
    ∃ c rest, v.print = c :: rest ∧ isBlank c = false ∧ c ≠ ']' := by
  cases h with
  | null => exact ⟨_, _, rfl, by decide, by decide⟩
  | bool b => cases b <;> exact ⟨_, _, rfl, by decide, by decide⟩
  | string text => exact ⟨_, _, rfl, by decide, by decide⟩
  | array h => exact ⟨_, _, rfl, by decide, by decide⟩
  | object h => exact ⟨_, _, rfl, by decide, by decide⟩

/-- After the bracket that opens an array, a value is read as after a comma. -/
theorem run_firstItem {v : Value} (h : v.NumberFree) (outer : Place) :
    (State.firstItem outer).run v.print = (State.value (.item [] outer)).run v.print := by
  obtain ⟨c, rest, hprint, hblank, hclose⟩ := print_eq_cons h
  rw [hprint, State.run_cons, State.run_cons]
  simp only [State.step, hblank, hclose, ↓reduceIte, Bool.false_eq_true]

mutual

/-- **A printed value where a value has to come.** -/
theorem run_print : ∀ (v : Value) (place : Place), v.NumberFree →
    (State.value place).run v.print = place.plug v.outline
  | .null, place, _ => rfl
  | .bool true, place, _ => rfl
  | .bool false, place, _ => rfl
  | .string text, place, _ => run_printString text place
  | .array [], place, _ => rfl
  | .array (v :: rest), place, h => by
    cases h with
    | array h =>
      have hv : v.NumberFree := h v List.mem_cons_self
      rw [Value.print, printItems, List.cons_append, State.run_cons, List.append_assoc,
        State.run_append]
      show ((State.firstItem place).run _).run _ = _
      -- the bracket may close at once, so this is not yet the state that awaits a value
      rw [run_firstItem hv, run_print v _ hv]
      exact run_moreItems rest [v.outline] place fun w hw => h w (List.mem_cons_of_mem _ hw)
  | .object [], place, _ => rfl
  | .object ((name, v) :: rest), place, h => by
    cases h with
    | object h =>
      have hv : v.NumberFree := h (name, v) List.mem_cons_self
      simp only [Value.print, printMembers, List.append_assoc, List.cons_append, State.run_cons]
      show (State.firstKey place).run _ = _
      rw [run_printName name rfl, State.run_append, run_print v _ hv]
      exact run_moreMembers rest [(literalOf name, v.outline)] place
        fun m hm => h m (List.mem_cons_of_mem _ hm)

/-- The printed items after the first ones, and the bracket that closes the array. -/
theorem run_moreItems : ∀ (items : List Value) (done : List Node) (outer : Place),
    (∀ v ∈ items, v.NumberFree) →
    (State.afterItem done outer).run (printMoreItems items ++ [']']) =
      outer.plug (.array ((outlineItems items).after done))
  | [], done, outer, _ => rfl
  | v :: rest, done, outer, h => by
    have hv : v.NumberFree := h v List.mem_cons_self
    rw [printMoreItems, List.cons_append, List.cons_append, State.run_cons, List.append_assoc,
      State.run_append]
    show ((State.value (.item done outer)).run _).run _ = _
    rw [run_print v _ hv]
    exact run_moreItems rest (v.outline :: done) outer fun w hw => h w (List.mem_cons_of_mem _ hw)

/-- The printed members after the first ones, and the brace that closes the object. -/
theorem run_moreMembers : ∀ (members : List (String × Value)) (done : List (Literal × Node))
    (outer : Place), (∀ m ∈ members, m.2.NumberFree) →
    (State.afterMember done outer).run (printMoreMembers members ++ ['}']) =
      outer.plug (.object ((outlineMembers members).after done))
  | [], done, outer, _ => rfl
  | (name, v) :: rest, done, outer, h => by
    have hv : v.NumberFree := h (name, v) List.mem_cons_self
    simp only [printMoreMembers, List.append_assoc, List.cons_append, State.run_cons]
    show (State.nextKey done outer).run _ = _
    rw [run_printName name rfl, State.run_append, run_print v _ hv]
    exact run_moreMembers rest ((literalOf name, v.outline) :: done) outer
      fun m hm => h m (List.mem_cons_of_mem _ hm)

end

/-- **The text of a value has the outline of the value, and nothing trails it.** -/
theorem ofText_text {v : Value} (h : v.NumberFree) : Document.ofText v.text = ⟨v.outline, false⟩ := by
  rw [Document.ofText, Value.text, String.toList_ofList, State.start, run_print v .root h]
  rfl

/-! ## 4. Different values are printed differently -/

theorem literalOf_inj {a b : String} : literalOf a = literalOf b ↔ a = b := by
  refine ⟨fun h => ?_, congrArg literalOf⟩
  have hpieces : a.toList.map Piece.char = b.toList.map Piece.char := congrArg Literal.pieces h
  exact String.toList_inj.mp (List.map_inj_right (fun _ _ => Piece.char.inj) |>.mp hpieces)

mutual

/-- The outline of a value without numbers tells the value. -/
theorem outline_inj : ∀ {v w : Value}, v.NumberFree → v.outline = w.outline → v = w
  | .null, w, _, h => by
    cases w with
    | null => rfl
    | _ => cases h
  | .bool b, w, _, h => by
    cases w with
    | bool b' => rw [Node.bool.inj h]
    | _ => cases h
  | .string text, w, _, h => by
    cases w with
    | string text' => rw [literalOf_inj.mp (Node.string.inj h)]
    | _ => cases h
  | .array items, w, hfree, h => by
    cases hfree with
    | array hfree =>
      cases w with
      | array items' => rw [outlineItems_inj hfree (Node.array.inj h)]
      | _ => cases h
  | .object members, w, hfree, h => by
    cases hfree with
    | object hfree =>
      cases w with
      | object members' => rw [outlineMembers_inj hfree (Node.object.inj h)]
      | _ => cases h

theorem outlineItems_inj : ∀ {items items' : List Value}, (∀ v ∈ items, v.NumberFree) →
    outlineItems items = outlineItems items' → items = items'
  | [], [], _, _ => rfl
  | [], _ :: _, _, h => nomatch h
  | _ :: _, [], _, h => nomatch h
  | v :: rest, w :: rest', hfree, h => by
    obtain ⟨hv, hrest⟩ := Items.item.inj h
    rw [outline_inj (hfree v List.mem_cons_self) hv,
      outlineItems_inj (fun u hu => hfree u (List.mem_cons_of_mem _ hu)) hrest]

theorem outlineMembers_inj : ∀ {members members' : List (String × Value)},
    (∀ m ∈ members, m.2.NumberFree) → outlineMembers members = outlineMembers members' →
    members = members'
  | [], [], _, _ => rfl
  | [], _ :: _, _, h => nomatch h
  | _ :: _, [], _, h => nomatch h
  | (name, v) :: rest, (name', w) :: rest', hfree, h => by
    have hvalue : v.NumberFree := hfree (name, v) List.mem_cons_self
    obtain ⟨hname, hv, hrest⟩ := Members.member.inj h
    rw [literalOf_inj.mp hname, outline_inj hvalue hv,
      outlineMembers_inj (fun m hm => hfree m (List.mem_cons_of_mem _ hm)) hrest]

end

/-- **A text was printed of one value at most.** It is read again, so nothing has to be found out about
    where in it the parts of the value end. -/
theorem text_inj {v w : Value} (hv : v.NumberFree) (hw : w.NumberFree) :
    v.text = w.text ↔ v = w := by
  refine ⟨fun h => ?_, congrArg Value.text⟩
  have hdocument := ofText_text hv
  rw [h, ofText_text hw] at hdocument
  exact (outline_inj hw (Document.mk.inj hdocument).1).symm

end Json

end ContractQuery
