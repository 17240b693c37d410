import ContractQuery.Proofs.Json.Grammar

/-!
# Just the texts of the grammar are read to the end

A text of the grammar has the outline that stands beside it (`ofText_of_elementText`). Here the other
half is shown: where reading stopped nowhere, the text belongs to the grammar. So the reader takes JSON
texts and no others, and a text has one outline.

* `State.Ahead root s cs`: what the grammar asks of the text `cs` that is still to come in a state, if it
  is to be a text with the outline `root`. What is already behind is kept by the state itself.
* `State.Ahead.of_step`: one character. What is ahead after it was ahead with it.
* `State.Ahead.of_run`: any text, by induction from its end.
* **`elementText_iff`**: both halves.
-/

namespace ContractQuery

namespace Json

/-! ## 1. What is ahead in numbers and strings -/

/-- What may follow in a number. -/
def NumberPart.Ahead : NumberPart → List Char → Prop
  | .sign, cs => UnsignedText cs
  | .zero, cs => ∃ fraction exponent, cs = fraction ++ exponent ∧ FractionText fraction ∧
    ExponentText exponent
  | .whole, cs => ∃ digits fraction exponent, cs = digits ++ (fraction ++ exponent) ∧
    AllDigits digits ∧ FractionText fraction ∧ ExponentText exponent
  | .point, cs => ∃ digits exponent, cs = digits ++ exponent ∧ digits ≠ [] ∧ AllDigits digits ∧
    ExponentText exponent
  | .fraction, cs => ∃ digits exponent, cs = digits ++ exponent ∧ AllDigits digits ∧
    ExponentText exponent
  | .mark, cs => ∃ sign digits, cs = sign ++ digits ∧ SignText sign ∧ digits ≠ [] ∧ AllDigits digits
  | .markSign, cs => cs ≠ [] ∧ AllDigits cs
  | .exponent, cs => AllDigits cs

theorem allDigits_nil : AllDigits [] := nofun

theorem AllDigits.cons {c : Char} {cs : List Char} (hc : c.isDigit = true) (h : AllDigits cs) :
    AllDigits (c :: cs) := List.forall_mem_cons.mpr ⟨hc, h⟩

theorem NumberPart.ahead_nil {part : NumberPart} (h : part.mayEnd = true) : part.Ahead [] := by
  cases part with
  | zero => exact ⟨[], [], rfl, .absent, .absent⟩
  | whole => exact ⟨[], [], [], rfl, allDigits_nil, .absent, .absent⟩
  | fraction => exact ⟨[], [], rfl, allDigits_nil, .absent⟩
  | exponent => exact allDigits_nil
  | _ => cases h

theorem NumberPart.mayEnd_of_ended {part : NumberPart} {c : Char} (h : part.step c = .ended) :
    part.mayEnd = true := by
  cases part with
  | zero => rfl
  | whole => rfl
  | fraction => rfl
  | exponent => rfl
  | _ =>
    simp only [step] at h
    repeat' split at h
    all_goals cases h

/-- The characters that lead from one part of a number to the next. -/
inductive NumberPart.Moves : NumberPart → Char → NumberPart → Prop
  | zero : Moves .sign '0' .zero
  | first {c : Char} (hzero : c ≠ '0') (hc : c.isDigit = true) : Moves .sign c .whole
  | whole {c : Char} (hc : c.isDigit = true) : Moves .whole c .whole
  | point {part : NumberPart} (hpart : part = .zero ∨ part = .whole) : Moves part '.' .point
  | fraction {part : NumberPart} {c : Char} (hpart : part = .point ∨ part = .fraction)
    (hc : c.isDigit = true) : Moves part c .fraction
  | mark {part : NumberPart} {c : Char} (hpart : part = .zero ∨ part = .whole ∨ part = .fraction)
    (hc : (c = 'e' || c = 'E') = true) : Moves part c .mark
  | markSign {c : Char} (hc : (c = '+' || c = '-') = true) : Moves .mark c .markSign
  | exponent {part : NumberPart} {c : Char} (hpart : part = .mark ∨ part = .markSign ∨ part = .exponent)
    (hc : c.isDigit = true) : Moves part c .exponent

/-- A number goes on in no other way. -/
theorem NumberPart.moves_of_step {part next : NumberPart} {c : Char} (h : part.step c = .more next) :
    part.Moves c next := by
  -- of the branches of a step only those are left that go on
  cases part <;> simp only [step] at h <;> (repeat' split at h) <;> cases h
  case sign.isTrue hc => exact hc ▸ .zero
  case sign.isFalse.isTrue hzero hc => exact .first hzero hc
  case zero.isFalse.isTrue hc => exact hc ▸ .point (.inl rfl)
  case zero.isFalse.isFalse.isTrue hc => exact .mark (.inl rfl) hc
  case whole.isTrue hc => exact .whole hc
  case whole.isFalse.isTrue hc => exact hc ▸ .point (.inr rfl)
  case whole.isFalse.isFalse.isTrue hc => exact .mark (.inr (.inl rfl)) hc
  case point.isTrue hc => exact .fraction (.inl rfl) hc
  case fraction.isTrue hc => exact .fraction (.inr rfl) hc
  case fraction.isFalse.isTrue hc => exact .mark (.inr (.inr rfl)) hc
  case mark.isTrue hc => exact .markSign hc
  case mark.isFalse.isTrue hc => exact .exponent (.inl rfl) hc
  case markSign.isTrue hc => exact .exponent (.inr (.inl rfl)) hc
  case exponent.isTrue hc => exact .exponent (.inr (.inr rfl)) hc

/-- **One more character of a number.** -/
theorem NumberPart.Ahead.of_moves {part next : NumberPart} {c : Char} {cs : List Char}
    (hmoves : part.Moves c next) (h : next.Ahead cs) : part.Ahead (c :: cs) := by
  cases hmoves with
  | zero =>
    obtain ⟨fraction, exponent, rfl, hfraction, hexponent⟩ := h
    exact .mk .zero hfraction hexponent
  | first hzero hc =>
    obtain ⟨digits, fraction, exponent, rfl, hdigits, hfraction, hexponent⟩ := h
    exact .mk (.digits hzero (hdigits.cons hc)) hfraction hexponent
  | whole hc =>
    obtain ⟨digits, fraction, exponent, rfl, hdigits, hfraction, hexponent⟩ := h
    exact ⟨c :: digits, fraction, exponent, rfl, hdigits.cons hc, hfraction, hexponent⟩
  | point hpart =>
    obtain ⟨digits, exponent, rfl, hne, hdigits, hexponent⟩ := h
    have hfraction : FractionText ('.' :: digits) := .digits hne hdigits
    rcases hpart with rfl | rfl
    · exact ⟨_, exponent, rfl, hfraction, hexponent⟩
    · exact ⟨[], _, exponent, rfl, allDigits_nil, hfraction, hexponent⟩
  | fraction hpart hc =>
    rcases hpart with rfl | rfl
    · obtain ⟨digits, exponent, rfl, hdigits, hexponent⟩ := h
      exact ⟨c :: digits, exponent, rfl, List.cons_ne_nil _ _, hdigits.cons hc, hexponent⟩
    · obtain ⟨digits, exponent, rfl, hdigits, hexponent⟩ := h
      exact ⟨c :: digits, exponent, rfl, hdigits.cons hc, hexponent⟩
  | mark hpart hc =>
    obtain ⟨sign, digits, rfl, hsign, hne, hdigits⟩ := h
    have hexponent : ExponentText (c :: (sign ++ digits)) := .digits (by simpa using hc) hsign hne hdigits
    rcases hpart with rfl | rfl | rfl
    · exact ⟨[], _, rfl, .absent, hexponent⟩
    · exact ⟨[], [], _, rfl, allDigits_nil, .absent, hexponent⟩
    · exact ⟨[], _, rfl, allDigits_nil, hexponent⟩
  | markSign hc =>
    have hsign : c = '+' ∨ c = '-' := by simpa using hc
    exact ⟨[c], cs, rfl, .inr (by simpa using hsign), h.1, h.2⟩
  | exponent hpart hc =>
    have hdigits : AllDigits (c :: cs) := AllDigits.cons hc h
    rcases hpart with rfl | rfl | rfl
    · exact ⟨[], c :: cs, rfl, .inl rfl, List.cons_ne_nil _ _, hdigits⟩
    · exact ⟨List.cons_ne_nil _ _, hdigits⟩
    · exact hdigits

theorem NumberPart.Ahead.of_step {part next : NumberPart} {c : Char} {cs : List Char}
    (hstep : part.step c = .more next) (h : next.Ahead cs) : part.Ahead (c :: cs) :=
  h.of_moves (moves_of_step hstep)

theorem numberText_of_ahead {c : Char} {part : NumberPart} {cs : List Char}
    (hfirst : NumberPart.ofFirst? c = some part) (h : part.Ahead cs) : NumberText (c :: cs) := by
  unfold NumberPart.ofFirst? at hfirst
  split at hfirst
  · rename_i hc
    cases hfirst
    subst hc
    exact .negative h
  · refine .unsigned (@NumberPart.Ahead.of_step .sign part c cs ?_ h)
    split at hfirst
    · rename_i hc
      cases hfirst
      exact if_pos hc
    split at hfirst
    · rename_i hzero hc
      cases hfirst
      simp [NumberPart.step, hzero, hc]
    · cases hfirst

/-- What may follow in a string of the pieces `all`. An escape that has begun is taken together with its
    beginning. -/
def Scan.Ahead (all : List Piece) : Scan → List Char → Prop
  | .plain done, cs => ∃ pieces, all = done.reverse ++ pieces ∧ Characters cs pieces
  | .escape done, cs => ∃ pieces, all = done.reverse ++ pieces ∧ Characters ('\\' :: cs) pieces
  | .hex done seen, cs => ∃ pieces, all = done.reverse ++ pieces ∧
    Characters ('\\' :: 'u' :: (seen.reverse ++ cs)) pieces

/-- **One more character of a string.** -/
theorem Scan.Ahead.of_step {all : List Piece} {s next : Scan} {c : Char} {cs : List Char}
    (hstep : s.step c = .more next) (h : next.Ahead all cs) : s.Ahead all (c :: cs) := by
  cases s with
  | plain done =>
    simp only [Scan.step] at hstep
    split at hstep
    · cases hstep
    rename_i hquote
    split at hstep
    · rename_i hc
      cases hstep
      subst hc
      exact h
    rename_i hback
    split at hstep
    · cases hstep
    · rename_i hcontrol
      cases hstep
      obtain ⟨pieces, hall, h⟩ := h
      exact ⟨.char c :: pieces, by simpa using hall,
        .plain hquote hback (Nat.not_lt.mp hcontrol) h⟩
  | escape done =>
    simp only [Scan.step] at hstep
    split at hstep
    · rename_i hc
      cases hstep
      subst hc
      exact h
    split at hstep
    · rename_i meant hmeant
      cases hstep
      obtain ⟨pieces, hall, h⟩ := h
      exact ⟨.char meant :: pieces, by simpa using hall, .escaped hmeant h⟩
    · cases hstep
  | hex done seen =>
    simp only [Scan.step] at hstep
    split at hstep
    · cases hstep
      obtain ⟨pieces, hall, h⟩ := h
      exact ⟨pieces, hall, by simpa using h⟩
    split at hstep
    · rename_i piece hpiece
      cases hstep
      obtain ⟨pieces, hall, h⟩ := h
      refine ⟨piece :: pieces, by simpa using hall, ?_⟩
      unfold Piece.ofHex? at hpiece
      split at hpiece
      · rename_i hseen
        obtain ⟨rfl, rfl⟩ := List.cons.inj hseen
        exact .unit hpiece h
      · cases hpiece
    · cases hstep

/-- A string that is closed has all its pieces. -/
theorem Scan.ahead_of_closed {s : Scan} {c : Char} (h : s.step c = .closed) :
    c = '"' ∧ s.Ahead s.done.reverse [] := by
  cases s with
  | plain done =>
    simp only [Scan.step] at h
    split at h
    · rename_i hc
      exact ⟨hc, [], (List.append_nil _).symm, .nil⟩
    repeat' split at h
    all_goals cases h
  | escape done =>
    simp only [Scan.step] at h
    repeat' split at h
    all_goals cases h
  | hex done seen =>
    simp only [Scan.step] at h
    repeat' split at h
    all_goals cases h

/-! ## 2. What is ahead in arrays and objects -/

/-- What may follow an element of an array, before its bracket. -/
inductive MoreElements : List Char → Items → Prop
  | last {cs : List Char} (h : Blank cs) : MoreElements cs .closed
  | more {front cs : List Char} {items : Items} (hfront : Blank front) (h : ElementsText cs items) :
    MoreElements (front ++ ',' :: cs) items

/-- What may follow a member of an object, before its brace. -/
inductive MoreMembers : List Char → Members → Prop
  | last {cs : List Char} (h : Blank cs) : MoreMembers cs .closed
  | more {front cs : List Char} {members : Members} (hfront : Blank front)
    (h : MembersText cs members) : MoreMembers (front ++ ',' :: cs) members

theorem Blank.cons {c : Char} {cs : List Char} (hc : isBlank c = true) (h : Blank cs) :
    Blank (c :: cs) := List.forall_mem_cons.mpr ⟨hc, h⟩

theorem blank_nil : Blank [] := nofun

theorem MoreElements.blank_cons {c : Char} {cs : List Char} {items : Items} (hc : isBlank c = true)
    (h : MoreElements cs items) : MoreElements (c :: cs) items := by
  cases h with
  | last h => exact .last (h.cons hc)
  | more hfront h => exact .more (hfront.cons hc) h

theorem MoreMembers.blank_cons {c : Char} {cs : List Char} {members : Members}
    (hc : isBlank c = true) (h : MoreMembers cs members) : MoreMembers (c :: cs) members := by
  cases h with
  | last h => exact .last (h.cons hc)
  | more hfront h => exact .more (hfront.cons hc) h

/-- An element and what follows it. -/
theorem MoreElements.elementsText {front cs back : List Char} {node : Node} {items : Items}
    (hfront : Blank front) (h : ValueText cs node) (hback : MoreElements back items) :
    ElementsText (front ++ (cs ++ back)) (.item node items) := by
  cases hback with
  | last hback => exact .one (.mk hfront h hback)
  | more hmid hmore =>
    have htext := ElementsText.more (.mk hfront h hmid) hmore
    simpa using htext

/-- A member and what follows it. -/
theorem MoreMembers.membersText {key mid front cs back : List Char} {pieces : List Piece}
    {node : Node} {members : Members} (hkey : Characters key pieces) (hmid : Blank mid)
    (hfront : Blank front) (h : ValueText cs node) (hback : MoreMembers back members) :
    MembersText ('"' :: (key ++ '"' :: (mid ++ ':' :: (front ++ (cs ++ back)))))
      (.member ⟨pieces, none⟩ node members) := by
  cases hback with
  | last hback => exact .one (.mk blank_nil hkey hmid (.mk hfront h hback))
  | more hlast hmore =>
    have htext := MembersText.more (.mk blank_nil hkey hmid (.mk hfront h hlast)) hmore
    simpa using htext

/-- Blanks before a member belong to it. -/
theorem MembersText.blank_cons {c : Char} {cs : List Char} {members : Members}
    (hc : isBlank c = true) (h : MembersText cs members) : MembersText (c :: cs) members := by
  have hmember : ∀ {cs : List Char} {key : Literal} {node : Node}, MemberText cs key node →
      MemberText (c :: cs) key node := by
    intro cs key node h
    cases h with
    | mk hfront hkey hback h => exact .mk (hfront.cons hc) hkey hback h
  cases h with
  | one h => exact .one (hmember h)
  | more h hrest => exact .more (hmember h) hrest

/-! ## 3. What is ahead in a state -/

section Ahead

/-- The rest of an array after the items `done`, and what is ahead after it. -/
def EndsArray (after : Node → List Char → Prop) (done : List Node) (cs : List Char) : Prop :=
  ∃ more items rest, cs = more ++ ']' :: rest ∧ MoreElements more items ∧
    after (.array (items.after done)) rest

/-- The rest of an object after the members `done`, and what is ahead after it. -/
def EndsObject (after : Node → List Char → Prop) (done : List (Literal × Node)) (cs : List Char) :
    Prop :=
  ∃ more members rest, cs = more ++ '}' :: rest ∧ MoreMembers more members ∧
    after (.object (members.after done)) rest

/-- More members after the members `done`, and what is ahead after their object. -/
def BeginsMembers (after : Node → List Char → Prop) (done : List (Literal × Node))
    (cs : List Char) : Prop :=
  ∃ text members rest, cs = text ++ '}' :: rest ∧ MembersText text members ∧
    after (.object (members.after done)) rest

/-- A value, and what is ahead after it. -/
def BeginsValue (after : Node → List Char → Prop) (cs : List Char) : Prop :=
  ∃ front text rest node, cs = front ++ (text ++ rest) ∧ Blank front ∧ ValueText text node ∧
    after node rest

/-- A colon and a value, and what is ahead after it. -/
def BeginsColon (after : Node → List Char → Prop) (cs : List Char) : Prop :=
  ∃ front rest, cs = front ++ ':' :: rest ∧ Blank front ∧ BeginsValue after rest

/-- The bracket or the brace `close` at once, and what is ahead after it. -/
def Closes (close : Char) (after : List Char → Prop) (cs : List Char) : Prop :=
  ∃ front rest, cs = front ++ close :: rest ∧ Blank front ∧ after rest

/-- What is ahead after a value at its place. -/
def Place.Ahead (root : Node) : Place → Node → List Char → Prop
  | .root, node, cs => node = root ∧ Blank cs
  | .item done outer, node, cs => EndsArray (outer.Ahead root) (node :: done) cs
  | .member done key outer, node, cs => EndsObject (outer.Ahead root) ((key, node) :: done) cs

/-- What is ahead in a state, if the text is to have the outline `root`. -/
def State.Ahead (root : Node) : State → List Char → Prop
  | .value place, cs => BeginsValue (place.Ahead root) cs
  | .firstItem outer, cs => Closes ']' (outer.Ahead root (.array .closed)) cs ∨
    BeginsValue ((Place.item [] outer).Ahead root) cs
  | .afterItem done outer, cs => EndsArray (outer.Ahead root) done cs
  | .firstKey outer, cs => Closes '}' (outer.Ahead root (.object .closed)) cs ∨
    BeginsMembers (outer.Ahead root) [] cs
  | .nextKey done outer, cs => BeginsMembers (outer.Ahead root) done cs
  | .key scan done outer, cs => ∃ text pieces rest, cs = text ++ '"' :: rest ∧
    scan.Ahead pieces text ∧ BeginsColon ((Place.member done ⟨pieces, none⟩ outer).Ahead root) rest
  | .colon name done outer, cs => BeginsColon ((Place.member done name outer).Ahead root) cs
  | .afterMember done outer, cs => EndsObject (outer.Ahead root) done cs
  | .word next rest meaning place, cs =>
    ∃ tail, cs = next :: (rest ++ tail) ∧ place.Ahead root meaning tail
  | .number part text place, cs => ∃ more rest, cs = more ++ rest ∧ part.Ahead more ∧
    place.Ahead root (.number (text.reverse ++ more)) rest
  | .string scan place, cs => ∃ text pieces rest, cs = text ++ '"' :: rest ∧
    scan.Ahead pieces text ∧ place.Ahead root (.string ⟨pieces, none⟩) rest
  | .complete node, cs => node = root ∧ Blank cs
  | .stopped _, _ => False

end Ahead

section Blanks

variable {after : Node → List Char → Prop} {c : Char} {cs : List Char}

theorem EndsArray.blank_cons {done : List Node} (hc : isBlank c = true)
    (h : EndsArray after done cs) : EndsArray after done (c :: cs) := by
  obtain ⟨more, items, rest, rfl, hmore, h⟩ := h
  exact ⟨c :: more, items, rest, rfl, hmore.blank_cons hc, h⟩

theorem EndsObject.blank_cons {done : List (Literal × Node)} (hc : isBlank c = true)
    (h : EndsObject after done cs) : EndsObject after done (c :: cs) := by
  obtain ⟨more, members, rest, rfl, hmore, h⟩ := h
  exact ⟨c :: more, members, rest, rfl, hmore.blank_cons hc, h⟩

theorem BeginsMembers.blank_cons {done : List (Literal × Node)} (hc : isBlank c = true)
    (h : BeginsMembers after done cs) : BeginsMembers after done (c :: cs) := by
  obtain ⟨text, members, rest, rfl, htext, h⟩ := h
  exact ⟨c :: text, members, rest, rfl, htext.blank_cons hc, h⟩

theorem BeginsValue.blank_cons (hc : isBlank c = true) (h : BeginsValue after cs) :
    BeginsValue after (c :: cs) := by
  obtain ⟨front, text, rest, node, rfl, hfront, h⟩ := h
  exact ⟨c :: front, text, rest, node, rfl, hfront.cons hc, h⟩

theorem BeginsColon.blank_cons (hc : isBlank c = true) (h : BeginsColon after cs) :
    BeginsColon after (c :: cs) := by
  obtain ⟨front, rest, rfl, hfront, h⟩ := h
  exact ⟨c :: front, rest, rfl, hfront.cons hc, h⟩

theorem Closes.blank_cons {close : Char} {after : List Char → Prop} (hc : isBlank c = true)
    (h : Closes close after cs) : Closes close after (c :: cs) := by
  obtain ⟨front, rest, rfl, hfront, h⟩ := h
  exact ⟨c :: front, rest, rfl, hfront.cons hc, h⟩

end Blanks

/-! ## 4. One character -/

section Step

variable {root : Node} {c : Char} {cs : List Char}

theorem Place.ahead_of_plug {place : Place} {node : Node} (h : (place.plug node).Ahead root cs) :
    place.Ahead root node cs := by
  cases place <;> exact h

/-- A value begins. -/
theorem Place.ahead_of_begin {place : Place} (h : (place.begin c).Ahead root cs) :
    BeginsValue (place.Ahead root) (c :: cs) := by
  unfold Place.begin at h
  split at h
  · obtain ⟨text, pieces, rest, rfl, ⟨_, rfl, htext⟩, h⟩ := h
    exact ⟨[], _, rest, _, by simp, blank_nil, .string htext, h⟩
  · rcases h with ⟨front, rest, rfl, hfront, h⟩ | ⟨front, text, rest, node, rfl, hfront, htext, h⟩
    · exact ⟨[], _, rest, _, by simp, blank_nil, .emptyArray hfront, h⟩
    · obtain ⟨more, items, rest, rfl, hmore, h⟩ := h
      have hitems := MoreElements.elementsText hfront htext hmore
      exact ⟨[], _, rest, _, by simp, blank_nil, .array hitems, h⟩
  · rcases h with ⟨front, rest, rfl, hfront, h⟩ | ⟨text, members, rest, rfl, htext, h⟩
    · exact ⟨[], _, rest, _, by simp, blank_nil, .emptyObject hfront, h⟩
    · exact ⟨[], _, rest, _, by simp, blank_nil, .object htext, h⟩
  · obtain ⟨tail, rfl, h⟩ := h
    exact ⟨[], _, tail, _, rfl, blank_nil, .nullWord, h⟩
  · obtain ⟨tail, rfl, h⟩ := h
    exact ⟨[], _, tail, _, rfl, blank_nil, .trueWord, h⟩
  · obtain ⟨tail, rfl, h⟩ := h
    exact ⟨[], _, tail, _, rfl, blank_nil, .falseWord, h⟩
  · split at h
    · rename_i part hpart
      obtain ⟨more, rest, rfl, hmore, h⟩ := h
      exact ⟨[], c :: more, rest, _, rfl, blank_nil, .number (numberText_of_ahead hpart hmore), h⟩
    · cases h

theorem ahead_of_stepAfterItem {done : List Node} {outer : Place}
    (h : (stepAfterItem done outer c).Ahead root cs) :
    EndsArray (outer.Ahead root) done (c :: cs) := by
  unfold stepAfterItem at h
  split at h
  · rename_i hc
    exact EndsArray.blank_cons hc h
  split at h
  · rename_i hc
    subst hc
    obtain ⟨front, text, rest, node, rfl, hfront, htext, more, items, rest, rfl, hmore, h⟩ := h
    have hitems := MoreElements.elementsText hfront htext hmore
    exact ⟨_, _, rest, by simp, .more blank_nil hitems, h⟩
  split at h
  · rename_i hc
    subst hc
    exact ⟨[], _, cs, rfl, .last blank_nil, outer.ahead_of_plug h⟩
  · cases h

theorem ahead_of_stepAfterMember {done : List (Literal × Node)} {outer : Place}
    (h : (stepAfterMember done outer c).Ahead root cs) :
    EndsObject (outer.Ahead root) done (c :: cs) := by
  unfold stepAfterMember at h
  split at h
  · rename_i hc
    exact EndsObject.blank_cons hc h
  split at h
  · rename_i hc
    subst hc
    obtain ⟨text, members, rest, rfl, htext, h⟩ := h
    exact ⟨_, members, rest, rfl, @MoreMembers.more [] _ _ blank_nil htext, h⟩
  split at h
  · rename_i hc
    subst hc
    exact ⟨[], _, cs, rfl, .last blank_nil, outer.ahead_of_plug h⟩
  · cases h

theorem ahead_of_stepComplete {node : Node} (h : (stepComplete node c).Ahead root cs) :
    node = root ∧ Blank (c :: cs) := by
  unfold stepComplete at h
  split at h
  · rename_i hc
    exact ⟨h.1, h.2.cons hc⟩
  · cases h

theorem Place.ahead_of_follow {place : Place} {node : Node}
    (h : (place.follow node c).Ahead root cs) : place.Ahead root node (c :: cs) := by
  cases place with
  | root => exact ahead_of_stepComplete h
  | item done outer => exact ahead_of_stepAfterItem h
  | member done key outer => exact ahead_of_stepAfterMember h

/-- A key begins. -/
theorem ahead_of_key {done : List (Literal × Node)} {outer : Place}
    (h : (State.key (.plain []) done outer).Ahead root cs) :
    BeginsMembers (outer.Ahead root) done ('"' :: cs) := by
  obtain ⟨key, pieces, rest, rfl, ⟨_, rfl, hkey⟩, mid, rest, rfl, hmid, h⟩ := h
  obtain ⟨front, text, rest, node, rfl, hfront, htext, more, members, rest, rfl, hmore, h⟩ := h
  have hmembers := MoreMembers.membersText hkey hmid hfront htext hmore
  exact ⟨_, _, rest, by simp, hmembers, h⟩

/-- **What is ahead after one more character was ahead with it.** -/
theorem State.Ahead.of_step {s : State} (h : (s.step c).Ahead root cs) : s.Ahead root (c :: cs) := by
  cases s with
  | value place =>
    simp only [State.step] at h
    split at h
    · rename_i hc
      exact BeginsValue.blank_cons hc h
    · exact place.ahead_of_begin h
  | firstItem outer =>
    simp only [State.step] at h
    split at h
    · rename_i hc
      exact h.imp (Closes.blank_cons hc) (BeginsValue.blank_cons hc)
    split at h
    · rename_i hc
      subst hc
      exact .inl ⟨[], cs, rfl, blank_nil, outer.ahead_of_plug h⟩
    · exact .inr (Place.ahead_of_begin h)
  | afterItem done outer => exact ahead_of_stepAfterItem h
  | firstKey outer =>
    simp only [State.step] at h
    split at h
    · rename_i hc
      exact h.imp (Closes.blank_cons hc) (BeginsMembers.blank_cons hc)
    split at h
    · rename_i hc
      subst hc
      exact .inl ⟨[], cs, rfl, blank_nil, outer.ahead_of_plug h⟩
    split at h
    · rename_i hc
      subst hc
      exact .inr (ahead_of_key h)
    · cases h
  | nextKey done outer =>
    simp only [State.step] at h
    split at h
    · rename_i hc
      exact BeginsMembers.blank_cons hc h
    split at h
    · rename_i hc
      subst hc
      exact ahead_of_key h
    · cases h
  | key scan done outer =>
    simp only [State.step] at h
    split at h
    · rename_i next hnext
      obtain ⟨text, pieces, rest, rfl, htext, h⟩ := h
      exact ⟨c :: text, pieces, rest, rfl, htext.of_step hnext, h⟩
    · rename_i hclosed
      obtain ⟨rfl, hdone⟩ := Scan.ahead_of_closed hclosed
      exact ⟨[], _, cs, rfl, hdone, h⟩
    · cases h
  | colon name done outer =>
    simp only [State.step] at h
    split at h
    · rename_i hc
      exact BeginsColon.blank_cons hc h
    split at h
    · rename_i hc
      subst hc
      exact ⟨[], cs, rfl, blank_nil, h⟩
    · cases h
  | afterMember done outer => exact ahead_of_stepAfterMember h
  | word next rest meaning place =>
    simp only [State.step] at h
    split at h
    · rename_i hc
      subst hc
      cases rest with
      | nil => exact ⟨cs, rfl, place.ahead_of_plug h⟩
      | cons next rest =>
        obtain ⟨tail, rfl, h⟩ := h
        exact ⟨tail, rfl, h⟩
    · cases h
  | number part text place =>
    simp only [State.step] at h
    split at h
    · rename_i next hnext
      obtain ⟨more, rest, rfl, hmore, h⟩ := h
      exact ⟨c :: more, rest, rfl, hmore.of_step hnext, by simpa using h⟩
    · rename_i hended
      have hnil := NumberPart.ahead_nil (NumberPart.mayEnd_of_ended hended)
      exact ⟨[], c :: cs, rfl, hnil, by simpa using place.ahead_of_follow h⟩
    · cases h
  | string scan place =>
    simp only [State.step] at h
    split at h
    · rename_i next hnext
      obtain ⟨text, pieces, rest, rfl, htext, h⟩ := h
      exact ⟨c :: text, pieces, rest, rfl, htext.of_step hnext, h⟩
    · rename_i hclosed
      obtain ⟨rfl, hdone⟩ := Scan.ahead_of_closed hclosed
      exact ⟨[], _, cs, rfl, hdone, place.ahead_of_plug h⟩
    · cases h
  | complete node => exact ahead_of_stepComplete h
  | stopped outline => exact h

end Step

/-! ## 5. Whole texts -/

/-- **What is ahead after some text was ahead with it.** -/
theorem State.Ahead.of_run {root : Node} {s : State} {text : List Char}
    (h : (s.run text).Ahead root []) : s.Ahead root text := by
  induction text generalizing s with
  | nil => exact h
  | cons c rest ih => exact (ih h).of_step

/-- Where the text may end, nothing is ahead. -/
theorem State.ahead_nil_of_finish {s : State} (hsound : s.Sound) (hroot : s.finish.root.Whole)
    (htrailing : s.finish.trailing = false) : s.Ahead s.finish.root [] := by
  have h : s.finish.Whole := ⟨hroot, htrailing⟩
  cases s with
  | value place => exact absurd h (Place.not_whole_close id)
  | firstItem outer => exact absurd h (outer.not_whole_closeItems _ _)
  | afterItem done outer => exact absurd h (outer.not_whole_closeItems _ _)
  | firstKey outer => exact absurd h (outer.not_whole_closeMembers _ _)
  | nextKey done outer => exact absurd h (outer.not_whole_closeMembers _ _)
  | key scan done outer => exact absurd h (Place.not_whole_close id)
  | colon name done outer => exact absurd h (Place.not_whole_close id)
  | afterMember done outer => exact absurd h (outer.not_whole_closeMembers _ _)
  | word next rest meaning place => exact absurd h (Place.not_whole_close id)
  | number part text place =>
    obtain ⟨rfl, hwhole⟩ := Place.whole_close h
    cases hend : part.mayEnd with
    | false => simp [hend, Node.Whole] at hwhole
    | true =>
      refine ⟨[], [], rfl, NumberPart.ahead_nil hend, ?_, blank_nil⟩
      simp [State.finish, Place.close, hend]
  | string scan place => exact absurd h (Place.not_whole_close (scan.not_whole_literal _))
  | complete root => exact ⟨rfl, blank_nil⟩
  | stopped outline => exact absurd h hsound

/-- **A text belongs to the grammar if and only if reading stops nowhere in it and nothing trails it; the
    outline that stands beside it is the one that was read.** -/
theorem elementText_iff {text : String} {node : Node} :
    ElementText text.toList node ↔ Document.ofText text = ⟨node, false⟩ ∧ node.Whole := by
  refine ⟨fun h => ⟨ofText_of_elementText h, h.whole⟩, fun ⟨h, hwhole⟩ => ?_⟩
  have hstart : State.start.Sound := trivial
  have hahead := State.ahead_nil_of_finish (hstart.run text.toList)
  rw [← Document.ofText, h] at hahead
  obtain ⟨front, cs, rest, root, hcs, hfront, hvalue, rfl, hrest⟩ := (hahead hwhole rfl).of_run
  rw [hcs]
  exact .mk hfront hvalue hrest

end Json

end ContractQuery
