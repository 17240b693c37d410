import ContractQuery.Proofs.Json.Whole

/-!
# The grammar of JSON texts

What a JSON text may look like, said of the text alone and without the states of a reader: there may be
blanks between all parts, a string may write its characters in several ways, and a number is an integer
with an optional fraction and an optional exponent. Beside each text stands its outline.

* `NumberText`, `Characters`: numbers, and what stands between the quotes of a string. An escape may be
  half of a surrogate pair.
* `ValueText`, `ElementText`, `ElementsText`, `MemberText`, `MembersText`: a value; a value with blanks
  around it; several of these with commas between them; and the same for the members of an object.
* **`ValueText.run`**: where a value has to come, the text of one brings its outline to that place.
* **`ofText_of_elementText`**: every text of the grammar has the outline that stands beside it, and
  nothing trails it.
-/

namespace ContractQuery

namespace Json

/-! ## 1. Blanks and numbers -/

/-- Nothing but blanks. -/
def Blank (cs : List Char) : Prop := ∀ c ∈ cs, isBlank c = true

/-- Nothing but digits. -/
def AllDigits (cs : List Char) : Prop := ∀ c ∈ cs, c.isDigit = true

/-- The digits before the point: a zero, or any others that do not begin with one. -/
inductive WholeText : List Char → Prop
  | zero : WholeText ['0']
  | digits {c : Char} {cs : List Char} (hfirst : c ≠ '0') (h : AllDigits (c :: cs)) :
    WholeText (c :: cs)

/-- The point and one or more digits, or nothing. -/
inductive FractionText : List Char → Prop
  | absent : FractionText []
  | digits {cs : List Char} (hne : cs ≠ []) (h : AllDigits cs) : FractionText ('.' :: cs)

/-- The sign of an exponent, or nothing. -/
def SignText (cs : List Char) : Prop := cs = [] ∨ cs = ['+'] ∨ cs = ['-']

/-- An `e`, an optional sign and one or more digits, or nothing. -/
inductive ExponentText : List Char → Prop
  | absent : ExponentText []
  | digits {mark : Char} {sign cs : List Char} (hmark : mark = 'e' ∨ mark = 'E') (hsign : SignText sign)
    (hne : cs ≠ []) (h : AllDigits cs) : ExponentText (mark :: (sign ++ cs))

/-- What may follow the sign of a number. -/
inductive UnsignedText : List Char → Prop
  | mk {whole fraction exponent : List Char} (hwhole : WholeText whole)
    (hfraction : FractionText fraction) (hexponent : ExponentText exponent) :
    UnsignedText (whole ++ (fraction ++ exponent))

/-- A number. -/
inductive NumberText : List Char → Prop
  | unsigned {cs : List Char} (h : UnsignedText cs) : NumberText cs
  | negative {cs : List Char} (h : UnsignedText cs) : NumberText ('-' :: cs)

/-! ## 2. Strings -/

/-- The characters between the quotes of a string, and the pieces they stand for. -/
inductive Characters : List Char → List Piece → Prop
  | nil : Characters [] []
  | plain {c : Char} {cs : List Char} {pieces : List Piece} (hquote : c ≠ '"') (hback : c ≠ '\\')
    (hcontrol : 0x20 ≤ c.toNat) (h : Characters cs pieces) : Characters (c :: cs) (.char c :: pieces)
  | escaped {c meant : Char} {cs : List Char} {pieces : List Piece} (hc : unescape? c = some meant)
    (h : Characters cs pieces) : Characters ('\\' :: c :: cs) (.char meant :: pieces)
  /-- Four hexadecimal digits. -/
  | unit {a b c d : Char} {piece : Piece} {cs : List Char} {pieces : List Piece}
    (hunit : Piece.ofHex? [d, c, b, a] = some piece) (h : Characters cs pieces) :
    Characters ('\\' :: 'u' :: a :: b :: c :: d :: cs) (piece :: pieces)

/-! ## 3. Values -/

mutual

/-- The text of a value, and its outline. -/
inductive ValueText : List Char → Node → Prop
  | nullWord : ValueText ['n', 'u', 'l', 'l'] .null
  | trueWord : ValueText ['t', 'r', 'u', 'e'] (.bool true)
  | falseWord : ValueText ['f', 'a', 'l', 's', 'e'] (.bool false)
  | number {cs : List Char} (h : NumberText cs) : ValueText cs (.number cs)
  | string {cs : List Char} {pieces : List Piece} (h : Characters cs pieces) :
    ValueText ('"' :: (cs ++ ['"'])) (.string ⟨pieces, none⟩)
  | emptyArray {cs : List Char} (h : Blank cs) : ValueText ('[' :: (cs ++ [']'])) (.array .closed)
  | array {cs : List Char} {items : Items} (h : ElementsText cs items) :
    ValueText ('[' :: (cs ++ [']'])) (.array items)
  | emptyObject {cs : List Char} (h : Blank cs) : ValueText ('{' :: (cs ++ ['}'])) (.object .closed)
  | object {cs : List Char} {members : Members} (h : MembersText cs members) :
    ValueText ('{' :: (cs ++ ['}'])) (.object members)

/-- A value with blanks around it. -/
inductive ElementText : List Char → Node → Prop
  | mk {front cs back : List Char} {node : Node} (hfront : Blank front) (h : ValueText cs node)
    (hback : Blank back) : ElementText (front ++ (cs ++ back)) node

/-- One or more elements with commas between them. -/
inductive ElementsText : List Char → Items → Prop
  | one {cs : List Char} {node : Node} (h : ElementText cs node) :
    ElementsText cs (.item node .closed)
  | more {cs rest : List Char} {node : Node} {items : Items} (h : ElementText cs node)
    (hrest : ElementsText rest items) : ElementsText (cs ++ ',' :: rest) (.item node items)

/-- A key, a colon and an element, with blanks around the key. -/
inductive MemberText : List Char → Literal → Node → Prop
  | mk {front key back cs : List Char} {pieces : List Piece} {node : Node} (hfront : Blank front)
    (hkey : Characters key pieces) (hback : Blank back) (h : ElementText cs node) :
    MemberText (front ++ '"' :: (key ++ '"' :: (back ++ ':' :: cs))) ⟨pieces, none⟩ node

/-- One or more members with commas between them. -/
inductive MembersText : List Char → Members → Prop
  | one {cs : List Char} {key : Literal} {node : Node} (h : MemberText cs key node) :
    MembersText cs (.member key node .closed)
  | more {cs rest : List Char} {key : Literal} {node : Node} {members : Members}
    (h : MemberText cs key node) (hrest : MembersText rest members) :
    MembersText (cs ++ ',' :: rest) (.member key node members)

end

mutual

/-- The outline of a text of the grammar is whole. -/
theorem ValueText.whole : ∀ {cs : List Char} {node : Node}, ValueText cs node → node.Whole
  | _, _, .nullWord => trivial
  | _, _, .trueWord => trivial
  | _, _, .falseWord => trivial
  | _, _, .number _ => trivial
  | _, _, .string _ => rfl
  | _, _, .emptyArray _ => trivial
  | _, _, .array h => h.whole
  | _, _, .emptyObject _ => trivial
  | _, _, .object h => h.whole

theorem ElementText.whole : ∀ {cs : List Char} {node : Node}, ElementText cs node → node.Whole
  | _, _, .mk _ h _ => h.whole

theorem ElementsText.whole : ∀ {cs : List Char} {items : Items}, ElementsText cs items → items.Whole
  | _, _, .one h => ⟨h.whole, trivial⟩
  | _, _, .more h hrest => ⟨h.whole, hrest.whole⟩

theorem MemberText.whole : ∀ {cs : List Char} {key : Literal} {node : Node},
    MemberText cs key node → key.stop = none ∧ node.Whole
  | _, _, _, .mk _ _ _ h => ⟨rfl, h.whole⟩

theorem MembersText.whole : ∀ {cs : List Char} {members : Members}, MembersText cs members →
    members.Whole
  | _, _, .one h => ⟨h.whole.1, h.whole.2, trivial⟩
  | _, _, .more h hrest => ⟨h.whole.1, h.whole.2, hrest.whole⟩

end

/-! ## 4. Numbers are read -/

/-- What some more characters make of a number, as long as it neither ends nor goes wrong. -/
def NumberPart.run (part : NumberPart) : List Char → Option NumberPart
  | [] => some part
  | c :: rest =>
    match part.step c with
    | .more part => part.run rest
    | .ended => none
    | .malformed => none

theorem NumberPart.run_more {part next : NumberPart} {c : Char} (h : part.step c = .more next)
    (rest : List Char) : part.run (c :: rest) = next.run rest := by
  simp only [NumberPart.run, h]

theorem NumberPart.run_append {part next : NumberPart} {front : List Char}
    (h : part.run front = some next) (back : List Char) :
    part.run (front ++ back) = next.run back := by
  induction front generalizing part with
  | nil =>
    cases h
    rfl
  | cons c rest ih =>
    simp only [List.cons_append, NumberPart.run] at h ⊢
    split at h
    · exact ih h
    · cases h
    · cases h

/-- Among digits more digits change nothing. -/
theorem NumberPart.run_digits {part : NumberPart}
    (hpart : ∀ c : Char, c.isDigit = true → part.step c = .more part) {cs : List Char}
    (h : AllDigits cs) : part.run cs = some part := by
  induction cs with
  | nil => rfl
  | cons c rest ih =>
    rw [run_more (hpart c (h c List.mem_cons_self))]
    exact ih fun d hd => h d (List.mem_cons_of_mem _ hd)

/-- One or more digits, where the first one leads to a part that goes on with digits. -/
theorem NumberPart.run_digits_of_step {part next : NumberPart}
    (hfirst : ∀ c : Char, c.isDigit = true → part.step c = .more next)
    (hnext : ∀ c : Char, c.isDigit = true → next.step c = .more next) {cs : List Char} (hne : cs ≠ [])
    (h : AllDigits cs) : part.run cs = some next := by
  cases cs with
  | nil => exact absurd rfl hne
  | cons c rest =>
    rw [run_more (hfirst c (h c List.mem_cons_self))]
    exact run_digits hnext fun d hd => h d (List.mem_cons_of_mem _ hd)

theorem NumberPart.step_fraction {c : Char} (hc : c.isDigit = true) :
    fraction.step c = .more .fraction := if_pos hc

theorem NumberPart.step_exponent {c : Char} (hc : c.isDigit = true) :
    exponent.step c = .more .exponent := if_pos hc

theorem NumberPart.step_whole {c : Char} (hc : c.isDigit = true) : whole.step c = .more .whole :=
  if_pos hc

/-- An exponent, after digits. -/
theorem NumberPart.run_exponentText {part : NumberPart}
    (hpart : part = .zero ∨ part = .whole ∨ part = .fraction) {cs : List Char} (h : ExponentText cs) :
    ∃ next, part.run cs = some next ∧ next.mayEnd = true := by
  cases h with
  | absent => rcases hpart with rfl | rfl | rfl <;> exact ⟨_, rfl, rfl⟩
  | @digits mark sign cs hmark hsign hne h =>
    have hstep : part.step mark = .more .mark := by
      rcases hpart with rfl | rfl | rfl <;> rcases hmark with rfl | rfl <;> rfl
    have hdigits : ∀ {before : NumberPart},
        (∀ c : Char, c.isDigit = true → before.step c = .more .exponent) →
        before.run cs = some .exponent :=
      fun hbefore => run_digits_of_step hbefore (fun c => step_exponent) hne h
    have hmarkSign : markSign.run cs = some .exponent := hdigits fun c hc => if_pos hc
    refine ⟨.exponent, ?_, rfl⟩
    rw [run_more hstep]
    rcases hsign with rfl | rfl | rfl
    · refine hdigits fun c hc => ?_
      -- no sign is a digit
      have hplus : c ≠ '+' := fun h => absurd (h ▸ hc) (by decide)
      have hminus : c ≠ '-' := fun h => absurd (h ▸ hc) (by decide)
      simp [step, hplus, hminus, hc]
    · exact (run_more rfl cs).trans hmarkSign
    · exact (run_more rfl cs).trans hmarkSign

/-- A fraction and an exponent, after the digits before the point. -/
theorem NumberPart.run_afterWhole {part : NumberPart} (hpart : part = .zero ∨ part = .whole)
    {fraction exponent : List Char} (hfraction : FractionText fraction)
    (hexponent : ExponentText exponent) :
    ∃ next, part.run (fraction ++ exponent) = some next ∧ next.mayEnd = true := by
  cases hfraction with
  | absent => exact run_exponentText (hpart.elim .inl (.inr ∘ .inl)) hexponent
  | digits hne h =>
    have hpoint : part.step '.' = .more .point := by rcases hpart with rfl | rfl <;> rfl
    have hdigits : point.run _ = some .fraction :=
      run_digits_of_step (fun c hc => by exact if_pos hc) (fun c => step_fraction) hne h
    rw [List.cons_append, run_more hpoint, run_append hdigits]
    exact run_exponentText (.inr (.inr rfl)) hexponent

/-- A number without its sign. -/
theorem NumberPart.run_unsignedText {cs : List Char} (h : UnsignedText cs) :
    ∃ next, sign.run cs = some next ∧ next.mayEnd = true := by
  cases h with
  | mk hwhole hfraction hexponent =>
    cases hwhole with
    | zero =>
      rw [List.singleton_append, run_more rfl]
      exact run_afterWhole (.inl rfl) hfraction hexponent
    | @digits c cs hfirst h =>
      have hc := h c List.mem_cons_self
      have hstep : sign.step c = .more .whole := by simp [step, hfirst, hc]
      have hdigits : whole.run cs = some .whole :=
        run_digits (fun c => step_whole) fun d hd => h d (List.mem_cons_of_mem _ hd)
      rw [List.cons_append, run_more hstep, run_append hdigits]
      exact run_afterWhole (.inr rfl) hfraction hexponent

/-- The first character begins what it would be after a sign. -/
theorem NumberPart.ofFirst?_eq_some {c : Char} {part : NumberPart} (h : sign.step c = .more part) :
    ofFirst? c = some part := by
  have hminus : c ≠ '-' := by
    rintro rfl
    cases h
  rw [ofFirst?, if_neg hminus]
  simp only [step] at h
  by_cases hzero : c = '0'
  · rw [if_pos hzero] at h ⊢
    cases h
    rfl
  · rw [if_neg hzero] at h ⊢
    by_cases hdigit : c.isDigit = true
    · rw [if_pos hdigit] at h ⊢
      cases h
      rfl
    · rw [if_neg hdigit] at h
      cases h

/-- **A number, from its first character on.** -/
theorem NumberText.exists_run {cs : List Char} (h : NumberText cs) :
    ∃ c rest part next, cs = c :: rest ∧ NumberPart.ofFirst? c = some part ∧
      part.run rest = some next ∧ next.mayEnd = true := by
  cases h with
  | negative h =>
    obtain ⟨next, hrun, hend⟩ := NumberPart.run_unsignedText h
    exact ⟨_, _, .sign, next, rfl, rfl, hrun, hend⟩
  | unsigned h =>
    obtain ⟨next, hrun, hend⟩ := NumberPart.run_unsignedText h
    cases cs with
    | nil =>
      cases hrun
      cases hend
    | cons c rest =>
      simp only [NumberPart.run] at hrun
      split at hrun
      · rename_i part hpart
        exact ⟨c, rest, part, next, rfl, NumberPart.ofFirst?_eq_some hpart, hrun, hend⟩
      · cases hrun
      · cases hrun

theorem Place.begin_number (place : Place) {c : Char} {part : NumberPart}
    (h : NumberPart.ofFirst? c = some part) : place.begin c = .number part [c] place := by
  unfold Place.begin
  split
  all_goals try cases h
  rw [h]

/-- A number begins with no blank and no bracket. -/
theorem isBlank_of_ofFirst? {c : Char} {part : NumberPart} (h : NumberPart.ofFirst? c = some part) :
    isBlank c = false ∧ c ≠ ']' := by
  refine ⟨?_, ?_⟩
  · by_cases hblank : isBlank c = true
    · have hcases : c = ' ' ∨ c = '\t' ∨ c = '\n' ∨ c = '\r' := by
        simpa [isBlank, or_assoc] using hblank
      rcases hcases with rfl | rfl | rfl | rfl <;> cases h
    · exact Bool.eq_false_iff.mpr hblank
  · rintro rfl
    cases h

theorem State.run_number {part next : NumberPart} {cs : List Char} (h : part.run cs = some next)
    (text : List Char) (place : Place) :
    (State.number part text place).run cs = .number next (cs.reverse ++ text) place := by
  induction cs generalizing part text with
  | nil =>
    cases h
    rfl
  | cons c rest ih =>
    simp only [NumberPart.run] at h
    split at h
    · rename_i mid hmid
      have hstep : (State.number part text place).step c = .number mid (c :: text) place := by
        simp only [State.step, hmid]
      rw [State.run_cons, hstep, ih h, List.reverse_cons, List.append_assoc]
      rfl
    · cases h
    · cases h

/-! ## 5. Strings are read -/

theorem utf8Size_of_hexDigit? {c : Char} {n : Nat} (h : hexDigit? c = some n) : c.utf8Size = 1 := by
  have hle : c.val ≤ 127 := by
    unfold hexDigit? at h
    split at h
    · rename_i hc
      have hle := Char.le_def.mp hc.2
      exact UInt32.le_trans hle (by decide)
    split at h
    · rename_i hc
      have hle := Char.le_def.mp hc.2
      exact UInt32.le_trans hle (by decide)
    split at h
    · rename_i hc
      have hle := Char.le_def.mp hc.2
      exact UInt32.le_trans hle (by decide)
    · cases h
  exact if_pos hle

theorem utf8Size_of_ofHex? {a b c d : Char} {piece : Piece}
    (h : Piece.ofHex? [d, c, b, a] = some piece) :
    a.utf8Size = 1 ∧ b.utf8Size = 1 ∧ c.utf8Size = 1 ∧ d.utf8Size = 1 := by
  obtain ⟨na, ha, h⟩ := Option.bind_eq_some_iff.mp h
  obtain ⟨nb, hb, h⟩ := Option.bind_eq_some_iff.mp h
  obtain ⟨nc, hc, h⟩ := Option.bind_eq_some_iff.mp h
  obtain ⟨nd, hd, _⟩ := Option.bind_eq_some_iff.mp h
  exact ⟨utf8Size_of_hexDigit? ha, utf8Size_of_hexDigit? hb, utf8Size_of_hexDigit? hc,
    utf8Size_of_hexDigit? hd⟩

/-- **What stands between quotes is read as the pieces beside it.** -/
theorem Characters.run {cs : List Char} {pieces : List Piece} (h : Characters cs pieces) :
    ∀ done : List Piece, (Scan.plain done).run cs = some (.plain (pieces.reverse ++ done)) := by
  induction h with
  | nil => exact fun _ => rfl
  | @plain c cs pieces hquote hback hcontrol _ ih =>
    intro done
    have hstep : (Scan.plain done).step c = .more (.plain (.char c :: done)) := by
      simp [Scan.step, hquote, hback, Nat.not_lt.mpr hcontrol]
    rw [Scan.run_more hstep, ih, List.reverse_cons, List.append_assoc]
    rfl
  | @escaped c meant cs pieces hc _ ih =>
    intro done
    have hu : c ≠ 'u' := by
      rintro rfl
      cases hc
    have hstep : (Scan.escape done).step c = .more (.plain (.char meant :: done)) := by
      simp [Scan.step, hu, hc]
    rw [Scan.run_more (t := .escape done) rfl, Scan.run_more hstep, ih, List.reverse_cons,
      List.append_assoc]
    rfl
  | @unit a b c d piece cs pieces hunit _ ih =>
    intro done
    obtain ⟨ha, hb, hc, hd⟩ := utf8Size_of_ofHex? hunit
    -- three digits are too few, and four are enough
    rw [Scan.run_more (t := .escape done) rfl, Scan.run_more (t := .hex done []) rfl,
      Scan.run_more (Scan.step_hex_more (by simp [byteCount, ha]) done),
      Scan.run_more (Scan.step_hex_more (by simp [byteCount, ha, hb]) done),
      Scan.run_more (Scan.step_hex_more (by simp [byteCount, ha, hb, hc]) done),
      Scan.run_more (Scan.step_hex_last (by simp [byteCount, ha, hb, hc, hd]) hunit done), ih,
      List.reverse_cons, List.append_assoc]
    rfl

/-! ## 6. Values are read -/

/-- After the text of a value: it is in its place, or it is a number that may end there. -/
inductive Settled (place : Place) : Node → State → Prop
  | plugged (node : Node) : Settled place node (place.plug node)
  | number {part : NumberPart} {text : List Char} (h : part.mayEnd = true) :
    Settled place (.number text.reverse) (.number part text place)

/-- The characters that may follow a value: they belong to no number. -/
def Delimits (c : Char) : Prop := isBlank c = true ∨ c = ',' ∨ c = ']' ∨ c = '}'

theorem step_eq_ended {part : NumberPart} (h : part.mayEnd = true) {c : Char} (hc : Delimits c) :
    part.step c = .ended := by
  have hcases : c = ' ' ∨ c = '\t' ∨ c = '\n' ∨ c = '\r' ∨ c = ',' ∨ c = ']' ∨ c = '}' := by
    simpa [Delimits, isBlank, or_assoc] using hc
  cases part with
  | zero => rcases hcases with rfl | rfl | rfl | rfl | rfl | rfl | rfl <;> rfl
  | whole => rcases hcases with rfl | rfl | rfl | rfl | rfl | rfl | rfl <;> rfl
  | fraction => rcases hcases with rfl | rfl | rfl | rfl | rfl | rfl | rfl <;> rfl
  | exponent => rcases hcases with rfl | rfl | rfl | rfl | rfl | rfl | rfl <;> rfl
  | _ => cases h

theorem Place.step_plug (place : Place) (node : Node) (c : Char) :
    (place.plug node).step c = place.follow node c := by
  cases place <;> rfl

/-- A character that may follow the value finds it in its place. -/
theorem Settled.step {place : Place} {node : Node} {s : State} (h : Settled place node s) {c : Char}
    (hc : Delimits c) : s.step c = (place.plug node).step c := by
  cases h with
  | plugged => rfl
  | number h =>
    rw [Place.step_plug]
    simp only [State.step, step_eq_ended h hc]

/-- A state that blanks do not change. -/
theorem State.run_blank {s : State} (hs : ∀ c, isBlank c = true → s.step c = s) {cs : List Char}
    (h : Blank cs) : s.run cs = s := by
  induction cs with
  | nil => rfl
  | cons c rest ih =>
    rw [State.run_cons, hs c (h c List.mem_cons_self)]
    exact ih fun d hd => h d (List.mem_cons_of_mem _ hd)

theorem Place.run_plug_blank (place : Place) (node : Node) {cs : List Char} (h : Blank cs) :
    (place.plug node).run cs = place.plug node := by
  refine State.run_blank (fun c hc => ?_) h
  cases place <;> exact if_pos hc

/-- Blanks after a value. -/
theorem Settled.run_blank {place : Place} {node : Node} {s : State} (h : Settled place node s)
    {cs : List Char} (hcs : Blank cs) : Settled place node (s.run cs) := by
  cases cs with
  | nil => exact h
  | cons c rest =>
    rw [State.run_cons, h.step (.inl (hcs c List.mem_cons_self)), ← State.run_cons,
      place.run_plug_blank node hcs]
    exact .plugged node

/-- The text of a value begins with a character that is no blank and closes no array. -/
theorem ValueText.eq_cons {cs : List Char} {node : Node} (h : ValueText cs node) :
    ∃ c rest, cs = c :: rest ∧ isBlank c = false ∧ c ≠ ']' := by
  cases h with
  | number h =>
    obtain ⟨c, rest, part, _, hcs, hfirst, _, _⟩ := h.exists_run
    exact ⟨c, rest, hcs, isBlank_of_ofFirst? hfirst⟩
  | _ => exact ⟨_, _, rfl, by decide, by decide⟩

theorem State.run_value_blank (place : Place) {cs : List Char} (h : Blank cs) :
    (State.value place).run cs = .value place := run_blank (fun _ hc => by exact if_pos hc) h

theorem State.run_firstItem_blank (outer : Place) {cs : List Char} (h : Blank cs) :
    (State.firstItem outer).run cs = .firstItem outer := run_blank (fun _ hc => by exact if_pos hc) h

theorem State.run_firstKey_blank (outer : Place) {cs : List Char} (h : Blank cs) :
    (State.firstKey outer).run cs = .firstKey outer := run_blank (fun _ hc => by exact if_pos hc) h

theorem State.run_nextKey_blank (done : List (Literal × Node)) (outer : Place) {cs : List Char}
    (h : Blank cs) : (State.nextKey done outer).run cs = .nextKey done outer :=
  run_blank (fun _ hc => by exact if_pos hc) h

theorem State.run_colon_blank (name : Literal) (done : List (Literal × Node)) (outer : Place)
    {cs : List Char} (h : Blank cs) : (State.colon name done outer).run cs = .colon name done outer :=
  run_blank (fun _ hc => by exact if_pos hc) h

/-- After the bracket that opens an array, an element is read as after a comma. -/
theorem ElementText.run_firstItem {cs : List Char} {node : Node} (h : ElementText cs node)
    (outer : Place) (rest : List Char) :
    (State.firstItem outer).run (cs ++ rest) = (State.value (.item [] outer)).run (cs ++ rest) := by
  cases h with
  | mk hfront h hback =>
    obtain ⟨c, text, rfl, hblank, hclose⟩ := h.eq_cons
    have hstep : (State.firstItem outer).step c = (State.value (.item [] outer)).step c := by
      simp only [State.step, hblank, hclose, ↓reduceIte, Bool.false_eq_true]
    simp only [List.append_assoc, State.run_append, State.run_value_blank _ hfront,
      State.run_firstItem_blank _ hfront, State.run_cons, hstep]

/-- After the brace that opens an object, a member is read as after a comma. -/
theorem MemberText.run_firstKey {cs : List Char} {key : Literal} {node : Node}
    (h : MemberText cs key node) (outer : Place) (rest : List Char) :
    (State.firstKey outer).run (cs ++ rest) = (State.nextKey [] outer).run (cs ++ rest) := by
  cases h with
  | mk hfront hkey hback h =>
    simp only [List.append_assoc, State.run_append, State.run_firstKey_blank _ hfront,
      State.run_nextKey_blank _ _ hfront]
    rfl

theorem ElementsText.run_firstItem {cs : List Char} {items : Items} (h : ElementsText cs items)
    (outer : Place) (rest : List Char) :
    (State.firstItem outer).run (cs ++ rest) = (State.value (.item [] outer)).run (cs ++ rest) := by
  cases h with
  | one h => exact h.run_firstItem outer rest
  | more h hrest =>
    rw [List.append_assoc]
    exact h.run_firstItem outer _

theorem MembersText.run_firstKey {cs : List Char} {members : Members} (h : MembersText cs members)
    (outer : Place) (rest : List Char) :
    (State.firstKey outer).run (cs ++ rest) = (State.nextKey [] outer).run (cs ++ rest) := by
  cases h with
  | one h => exact h.run_firstKey outer rest
  | more h hrest =>
    rw [List.append_assoc]
    exact h.run_firstKey outer _

/-- The character after a value finds it in its place. -/
theorem Settled.run_cons {place : Place} {node : Node} {s : State} (h : Settled place node s) {c : Char}
    (hc : Delimits c) (rest : List Char) : s.run (c :: rest) = (place.plug node).run (c :: rest) := by
  rw [State.run_cons, h.step hc, State.run_cons]

mutual

/-- **Where a value has to come, the text of one brings its outline to that place.** -/
theorem ValueText.run : ∀ {cs : List Char} {node : Node}, ValueText cs node → ∀ place : Place,
    Settled place node ((State.value place).run cs)
  | _, _, .nullWord, place => .plugged .null
  | _, _, .trueWord, place => .plugged (.bool true)
  | _, _, .falseWord, place => .plugged (.bool false)
  | _, _, .number h, place => by
    obtain ⟨c, rest, part, next, rfl, hfirst, hrun, hend⟩ := h.exists_run
    have hstep : (State.value place).step c = .number part [c] place := by
      rw [← place.begin_number hfirst]
      exact if_neg (by simp [(isBlank_of_ofFirst? hfirst).1])
    have htext : c :: rest = (rest.reverse ++ [c]).reverse := by simp
    rw [State.run_cons, hstep, State.run_number hrun, htext]
    exact .number hend
  | _, _, @ValueText.string cs pieces h, place => by
    rw [State.run_cons, State.run_append]
    show Settled place _ (((State.string (.plain []) place).run cs).run ['"'])
    have hliteral : Literal.mk pieces none = (Scan.plain (pieces.reverse ++ [])).literal none := by
      simp [Scan.literal, Scan.done]
    rw [State.run_string (h.run []), hliteral]
    exact .plugged _
  | _, _, @ValueText.emptyArray cs h, place => by
    rw [State.run_cons, State.run_append]
    show Settled place _ (((State.firstItem place).run cs).run [']'])
    rw [State.run_firstItem_blank place h]
    exact .plugged _
  | _, _, @ValueText.array cs items h, place => by
    have hrun := h.run [] place
    rw [State.run_cons]
    show Settled place _ ((State.firstItem place).run (cs ++ [']']))
    -- the bracket may close at once, so this is not yet the state that awaits a value
    rw [h.run_firstItem, hrun]
    exact .plugged _
  | _, _, @ValueText.emptyObject cs h, place => by
    rw [State.run_cons, State.run_append]
    show Settled place _ (((State.firstKey place).run cs).run ['}'])
    rw [State.run_firstKey_blank place h]
    exact .plugged _
  | _, _, @ValueText.object cs members h, place => by
    have hrun := h.run [] place
    rw [State.run_cons]
    show Settled place _ ((State.firstKey place).run (cs ++ ['}']))
    rw [h.run_firstKey, hrun]
    exact .plugged _

theorem ElementText.run : ∀ {cs : List Char} {node : Node}, ElementText cs node → ∀ place : Place,
    Settled place node ((State.value place).run cs)
  | _, _, .mk hfront h hback, place => by
    rw [State.run_append, State.run_value_blank place hfront, State.run_append]
    exact (h.run place).run_blank hback

/-- Elements after those that are there already, and the bracket that closes the array. -/
theorem ElementsText.run : ∀ {cs : List Char} {items : Items}, ElementsText cs items →
    ∀ (done : List Node) (outer : Place), (State.value (.item done outer)).run (cs ++ [']']) =
      outer.plug (.array (items.after done))
  | _, _, .one h, done, outer => by
    rw [State.run_append, (h.run (.item done outer)).run_cons (.inr (.inr (.inl rfl)))]
    rfl
  | _, _, @ElementsText.more cs rest node items h hrest, done, outer => by
    rw [List.append_assoc, State.run_append, List.cons_append,
      (h.run (.item done outer)).run_cons (.inr (.inl rfl)), State.run_cons]
    exact hrest.run (node :: done) outer

/-- A member where a key has to come. -/
theorem MemberText.run : ∀ {cs : List Char} {key : Literal} {node : Node}, MemberText cs key node →
    ∀ (done : List (Literal × Node)) (outer : Place),
      Settled (.member done key outer) node ((State.nextKey done outer).run cs)
  | _, _, _, @MemberText.mk front key back cs pieces node hfront hkey hback h, done, outer => by
    rw [State.run_append, State.run_nextKey_blank _ _ hfront, State.run_cons, State.run_append]
    show Settled _ _ (((State.key (.plain []) done outer).run key).run _)
    have hliteral : Literal.mk pieces none = (Scan.plain (pieces.reverse ++ [])).literal none := by
      simp [Scan.literal, Scan.done]
    rw [State.run_key (hkey.run []), State.run_cons, State.run_append, hliteral]
    show Settled _ _ (((State.colon _ done outer).run back).run (':' :: cs))
    rw [State.run_colon_blank _ _ _ hback, State.run_cons]
    exact h.run _

/-- Members after those that are there already, and the brace that closes the object. -/
theorem MembersText.run : ∀ {cs : List Char} {members : Members}, MembersText cs members →
    ∀ (done : List (Literal × Node)) (outer : Place), (State.nextKey done outer).run (cs ++ ['}']) =
      outer.plug (.object (members.after done))
  | _, _, .one h, done, outer => by
    rw [State.run_append, (h.run done outer).run_cons (.inr (.inr (.inr rfl)))]
    rfl
  | _, _, @MembersText.more cs rest key node members h hrest, done, outer => by
    rw [List.append_assoc, State.run_append, List.cons_append,
      (h.run done outer).run_cons (.inr (.inl rfl)), State.run_cons]
    exact hrest.run ((key, node) :: done) outer

end

/-! ## 7. Whole texts -/

/-- **A text of the grammar has the outline that stands beside it, and nothing trails it.** -/
theorem ofText_of_elementText {text : String} {node : Node} (h : ElementText text.toList node) :
    Document.ofText text = ⟨node, false⟩ := by
  have hsettled := h.run .root
  rw [Document.ofText, State.start]
  generalize (State.value .root).run text.toList = s at hsettled
  cases hsettled with
  | plugged => rfl
  | number hend => simp [State.finish, Place.close, hend]

end Json

end ContractQuery
