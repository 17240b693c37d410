import ContractQuery.Proofs.Json.Printing

/-!
# Whole outlines, and what comes after them

An outline is whole if reading stopped nowhere in it. Words, strings, arrays and objects end with a
character of their own, so where the outline of one of these is whole the value is over, and more text
can only trail it. A number does not: it may go on with the next digit.

* `Node.Whole`, `Document.Whole`: nothing stopped in the outline, and nothing trails it.
* `State.Sound`: a state in which nothing more is read has an outline that is not whole. It holds at
  the start, one character keeps it (`State.Sound.step`), and so it holds after any text
  (`State.Sound.run`).
* **`ofText_append`**: behind a text that holds all of a value other than a number there may be blanks,
  and anything else trails.
-/

namespace ContractQuery

namespace Json

/-! ## 1. Whole outlines -/

mutual

/-- Reading stopped nowhere in the value. -/
def Node.Whole : Node → Prop
  | .null | .bool _ | .number _ => True
  | .string s => s.stop = none
  | .array items => items.Whole
  | .object members => members.Whole
  | .cutNumber | .stopped _ => False

/-- Reading stopped nowhere in the items. -/
def Items.Whole : Items → Prop
  | .closed => True
  | .stopped _ => False
  | .item value rest => value.Whole ∧ rest.Whole

/-- Reading stopped nowhere in the members. -/
def Members.Whole : Members → Prop
  | .closed => True
  | .stopped _ => False
  | .member key value rest => key.stop = none ∧ value.Whole ∧ rest.Whole

end

/-- Reading stopped nowhere in the text, and nothing but blanks follows its value. -/
def Document.Whole (d : Document) : Prop := d.root.Whole ∧ d.trailing = false

/-- Reading stopped nowhere in the value, and the value ends with a character of its own. -/
def Node.Delimited (node : Node) : Prop := node.Whole ∧ ∀ text, node ≠ .number text

/-- A string that stopped is not whole. -/
theorem Scan.not_whole_literal (scan : Scan) (why : Stop) :
    ¬ (Node.string (scan.literal (some why))).Whole := Option.some_ne_none why

theorem Items.whole_after {rest : Items} {done : List Node} (h : (rest.after done).Whole) :
    rest.Whole := by
  induction done generalizing rest with
  | nil => exact h
  | cons value done ih => exact (ih h).2

theorem Members.whole_after {rest : Members} {done : List (Literal × Node)}
    (h : (rest.after done).Whole) : rest.Whole := by
  induction done generalizing rest with
  | nil => exact h
  | cons m done ih =>
    obtain ⟨key, value⟩ := m
    exact (ih h).2.2

/-! ## 2. Outlines of texts that stop -/

/-- Only at the root can reading stop without leaving a trace: inside anything, the array or the
    object around is not closed. -/
theorem Place.whole_close {why : Stop} {place : Place} {node : Node}
    (h : (place.close why node).Whole) : place = .root ∧ node.Whole := by
  induction place generalizing node with
  | root => exact ⟨rfl, h.1⟩
  | item done outer ih => exact absurd (Items.whole_after (ih h).2).2 id
  | member done key outer ih => exact absurd (Members.whole_after (ih h).2).2.2 id

theorem Place.not_whole_close {why : Stop} {place : Place} {node : Node} (h : ¬ node.Whole) :
    ¬ (place.close why node).Whole := fun hwhole => h (whole_close hwhole).2

theorem Place.not_whole_closeItems (why : Stop) (outer : Place) (done : List Node) :
    ¬ (outer.closeItems why done).Whole := not_whole_close Items.whole_after

theorem Place.not_whole_closeMembers (why : Stop) (outer : Place) (done : List (Literal × Node)) :
    ¬ (outer.closeMembers why done).Whole := not_whole_close Members.whole_after

/-! ## 3. Sound states -/

/-- Where nothing more is read, the outline is not whole. -/
def State.Sound : State → Prop
  | .stopped outline => ¬ outline.Whole
  | _ => True

theorem Place.plug_sound (place : Place) (node : Node) : (place.plug node).Sound := by
  cases place <;> trivial

theorem Place.begin_sound (place : Place) (c : Char) : (place.begin c).Sound := by
  unfold Place.begin
  split
  all_goals try trivial
  split
  · trivial
  · exact not_whole_close id

theorem stepAfterItem_sound (done : List Node) (outer : Place) (c : Char) :
    (stepAfterItem done outer c).Sound := by
  unfold stepAfterItem
  split
  · trivial
  split
  · trivial
  split
  · exact outer.plug_sound _
  · exact outer.not_whole_closeItems _ _

theorem stepAfterMember_sound (done : List (Literal × Node)) (outer : Place) (c : Char) :
    (stepAfterMember done outer c).Sound := by
  unfold stepAfterMember
  split
  · trivial
  split
  · trivial
  split
  · exact outer.plug_sound _
  · exact outer.not_whole_closeMembers _ _

theorem stepComplete_sound (root : Node) (c : Char) : (stepComplete root c).Sound := by
  unfold stepComplete
  split
  · trivial
  · exact fun h => nomatch h.2

theorem Place.follow_sound (place : Place) (node : Node) (c : Char) :
    (place.follow node c).Sound := by
  cases place with
  | root => exact stepComplete_sound node c
  | item done outer => exact stepAfterItem_sound (node :: done) outer c
  | member done key outer => exact stepAfterMember_sound ((key, node) :: done) outer c

/-- **One character keeps a state sound.** -/
theorem State.Sound.step {s : State} (h : s.Sound) (c : Char) : (s.step c).Sound := by
  cases s with
  | value place =>
    simp only [State.step]
    split
    · trivial
    · exact place.begin_sound c
  | firstItem outer =>
    simp only [State.step]
    split
    · trivial
    split
    · exact outer.plug_sound _
    · exact Place.begin_sound _ c
  | afterItem done outer => exact stepAfterItem_sound done outer c
  | firstKey outer =>
    simp only [State.step]
    split
    · trivial
    split
    · exact outer.plug_sound _
    split
    · trivial
    · exact outer.not_whole_closeMembers _ _
  | nextKey done outer =>
    simp only [State.step]
    split
    · trivial
    split
    · trivial
    · exact outer.not_whole_closeMembers _ _
  | key scan done outer =>
    simp only [State.step]
    split
    · trivial
    · trivial
    · exact Place.not_whole_close id
  | colon name done outer =>
    simp only [State.step]
    split
    · trivial
    split
    · trivial
    · exact Place.not_whole_close id
  | afterMember done outer => exact stepAfterMember_sound done outer c
  | word next rest meaning place =>
    simp only [State.step]
    split
    · cases rest with
      | nil => exact place.plug_sound meaning
      | cons next rest => trivial
    · exact Place.not_whole_close id
  | number part text place =>
    simp only [State.step]
    split
    · trivial
    · exact place.follow_sound _ c
    · exact Place.not_whole_close id
  | string scan place =>
    simp only [State.step]
    split
    · trivial
    · exact place.plug_sound _
    · exact Place.not_whole_close (scan.not_whole_literal _)
  | complete root => exact stepComplete_sound root c
  | stopped outline => exact h

/-- **After any text a sound state is sound.** -/
theorem State.Sound.run {s : State} (h : s.Sound) (text : List Char) : (s.run text).Sound := by
  induction text generalizing s with
  | nil => exact h
  | cons c rest ih => exact ih (h.step c)

/-! ## 4. The end of a text -/

/-- Where the text may end, behind a value that ends with a character of its own, the value is
    over. -/
theorem State.complete_of_finish {s : State} (hsound : s.Sound) (hroot : s.finish.root.Delimited)
    (htrailing : s.finish.trailing = false) : s = .complete s.finish.root := by
  have h : s.finish.Whole := ⟨hroot.1, htrailing⟩
  cases s with
  | value place => exact absurd h (Place.not_whole_close id)
  | firstItem outer => exact absurd h (outer.not_whole_closeItems _ _)
  | afterItem done outer => exact absurd h (outer.not_whole_closeItems _ _)
  | firstKey outer => exact absurd h (outer.not_whole_closeMembers _ _)
  | nextKey done outer => exact absurd h (outer.not_whole_closeMembers _ _)
  | key scan done outer => exact absurd h (Place.not_whole_close id)
  | colon name done outer => exact absurd h (Place.not_whole_close id)
  | afterMember done outer => exact absurd h (outer.not_whole_closeMembers _ _)
  | word next rest meaning place => exact absurd h (Place.not_whole_close id)
  | number part text place =>
    obtain ⟨rfl, hwhole⟩ := Place.whole_close h
    cases hend : part.mayEnd with
    | false => simp [hend, Node.Whole] at hwhole
    | true => exact absurd (by simp [State.finish, Place.close, hend]) (hroot.2 text.reverse)
  | string scan place => exact absurd h (Place.not_whole_close (scan.not_whole_literal _))
  | complete root => rfl
  | stopped outline => exact absurd h hsound

theorem State.run_stopped (outline : Document) (text : List Char) :
    (State.stopped outline).run text = .stopped outline := by
  induction text with
  | nil => rfl
  | cons c rest ih => exact ih

/-- Behind a value that is over there may be blanks, and anything else trails. -/
theorem State.finish_run_complete (root : Node) (text : List Char) :
    ((State.complete root).run text).finish = ⟨root, !text.all isBlank⟩ := by
  induction text with
  | nil => rfl
  | cons c rest ih =>
    rw [State.run_cons, List.all_cons]
    simp only [State.step, stepComplete]
    cases isBlank c with
    | true => exact ih
    | false =>
      rw [if_neg Bool.false_ne_true, State.run_stopped]
      rfl

/-- **Behind a value that ends with a character of its own there may be blanks, and anything else
    trails.** -/
theorem ofText_append {front : String} (hroot : (Document.ofText front).root.Delimited)
    (htrailing : (Document.ofText front).trailing = false) (back : String) :
    Document.ofText (front ++ back) =
      ⟨(Document.ofText front).root, !back.toList.all isBlank⟩ := by
  have hstart : State.start.Sound := trivial
  have hfront := State.complete_of_finish (hstart.run front.toList) hroot htrailing
  rw [Document.ofText, String.toList_append, State.run_append, hfront,
    State.finish_run_complete]
  rfl

end Json

end ContractQuery
