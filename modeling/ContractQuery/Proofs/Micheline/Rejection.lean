import ContractQuery.Proofs.Micheline.Acceptance
import ContractQuery.Proofs.Text.Quoted

/-!
# What is said of a value that is no expression

A value is read by its form first: there are five, tried one after the other, and several of them may fit
the same array. Only of the form that is found first is an expression made, and only an integer may fail
there. So a rejection says one of two things, and the root of the value decides which.

* `Form`, `forms`: the five forms in their order. **`ofValue_eq_first`**: the reader does nothing else,
  at every depth.
* `SaysInteger`: the values that are integers by their form. `ofValue_eq_badInteger_iff`: of these the
  text is reported if it is no numeral. All others that are rejected have no form (`eq_noForm_iff`).
* `Shaped`: the grammar of `Denotes` with any text for an integer. What is right but for the digits of an
  integer inside it has no form, since the integer was rejected before (`Shaped.noForm`).
* `ToldByRoot`: the messages that tell it. **`rejected_by_root`**: all this of whatever is read.
-/

namespace ContractQuery

namespace Micheline

open Json (Value)

/-! ## 1. Forms -/

/-- What a value says by its form, before the digits of an integer are looked at. -/
inductive Form
  | int (text : String)
  | string (text : String)
  | bytes (hex : String)
  | app (name : String) (args : List Expr) (annots : List String)
  | seq (items : List Expr)

/-- The expression of a form, if it is no integer without digits. -/
def Form.toExpr : Form → Except Rejection Expr
  | .int text => if Decimal.isNumeral text.toList then .ok (.int text) else .error (.badInteger text)
  | .string text => .ok (.string text)
  | .bytes hex => .ok (.bytes hex)
  | .app name args annots => .ok (.app name args annots)
  | .seq items => .ok (.seq items)

/-- The values as expressions, each read on its own, if all of them are. -/
def exprs? (vs : List Value) : Option (List Expr) := vs.mapM fun v => (Expr.ofValue v).toOption

/-- The string that is the only member of an object, under its name, or the only item of an array. -/
def only? (name : String) : Value → Option String
  | .object [(other, .string text)] => if other = name then some text else none
  | .array [.string text] => some text
  | _ => none

/-- The application of an object's members or of an array's items. Arguments and annotations may be left
    out, of an array from the end. -/
def application? : Value → Option Form
  | .object members => (appMembers? ⟨none, none, none⟩ members).bind fun m =>
    m.name.map fun name => .app name (m.args.getD []) (m.annots.getD [])
  | .array [.string name] => some (.app name [] [])
  | .array [.string name, .array args] => (exprs? args).map fun es => .app name es []
  | .array [.string name, .array args, .array annots] =>
    match exprs? args, strings? annots with
    | some es, some texts => some (.app name es texts)
    | _, _ => none
  | _ => none

/-- The sequence of an array's items. -/
def sequence? : Value → Option Form
  | .array items => (exprs? items).map .seq
  | _ => none

/-- The forms in the order in which they are tried. -/
def forms : List (Value → Option Form) :=
  [fun v => (only? "int" v).map .int, fun v => (only? "string" v).map .string,
    fun v => (only? "bytes" v).map .bytes, application?, sequence?]

/-- The first form that fits. -/
def firstForm? (v : Value) : Option Form := forms.findSome? fun form => form v

/-! ## 2. The first form decides -/

theorem toOption_ofValue (v : Value) : (Expr.ofValue v).toOption = ofValue? v := by
  unfold Expr.ofValue
  cases ofValue? v with
  | some e => rfl
  | none => cases intText? v <;> rfl

theorem exprs?_eq (vs : List Value) : exprs? vs = ofValues? vs := by
  induction vs with
  | nil => rfl
  | cons v rest ih =>
    unfold exprs? at ih ⊢
    rw [List.mapM_cons, ih, toOption_ofValue, ofValues?]
    cases ofValue? v <;> cases ofValues? rest <;> rfl

theorem firstForm?_eq (v : Value) : firstForm? v =
    ((only? "int" v).map Form.int).or (((only? "string" v).map Form.string).or
      (((only? "bytes" v).map Form.bytes).or ((application? v).or (sequence? v)))) := by
  unfold firstForm? forms
  simp only [List.findSome?_cons, List.findSome?_nil]
  cases only? "int" v <;> cases only? "string" v <;> cases only? "bytes" v <;> cases application? v <;>
    cases sequence? v <;> rfl

section Only

variable {name : String}

theorem only?_object {members : List (String × Value)} (h : ∀ text, members ≠ [(name, .string text)]) :
    only? name (.object members) = none := by
  unfold only?
  split
  · rename_i other text heq
    obtain rfl := Value.object.inj heq
    exact if_neg fun hname => h text (by rw [hname])
  · rename_i heq
    cases heq
  · rfl

theorem only?_array {items : List Value} (h : ∀ text, items ≠ [.string text]) :
    only? name (.array items) = none := by
  unfold only?
  split
  · rename_i heq
    cases heq
  · rename_i text heq
    exact absurd (Value.array.inj heq) (h text)
  · rfl

end Only

theorem intText?_eq (v : Value) : intText? v = only? "int" v := by
  unfold intText?
  split
  · rfl
  · rfl
  · rename_i hobject harray
    cases v with
    | array items => exact (only?_array fun text heq => harray text (congrArg _ heq)).symm
    | object members => exact (only?_object fun text heq => hobject text (congrArg _ heq)).symm
    | _ => rfl

/-- A string is no expression, so what begins with one is no sequence of them. -/
theorem exprs?_string_cons (text : String) (rest : List Value) : exprs? (.string text :: rest) = none := by
  rw [exprs?_eq, ofValues?]
  rfl

/-- The value is an integer by its form. -/
inductive SaysInteger : Value → String → Prop
  | object (text : String) : SaysInteger (.object [("int", .string text)]) text
  | array (text : String) : SaysInteger (.array [.string text]) text

theorem intText?_eq_some_iff {v : Value} {text : String} : intText? v = some text ↔ SaysInteger v text := by
  constructor
  · intro h
    unfold intText? at h
    split at h
    · cases h
      exact .object _
    · cases h
      exact .array _
    · cases h
  · intro h
    cases h <;> rfl

/-- What is made of a form that is found, or of none. -/
def ofForm : Option Form → Except Rejection Expr
  | some form => form.toExpr
  | none => .error .noForm

theorem Form.toExpr_int {text : String} (h : IsInteger text) : (Form.int text).toExpr = .ok (.int text) :=
  if_pos (isNumeral_iff.mpr h)

theorem Form.toExpr_badInteger {text : String} (h : ¬ IsInteger text) :
    (Form.int text).toExpr = .error (.badInteger text) :=
  if_neg fun hnumeral => h (isNumeral_iff.mp hnumeral)

/-- **An integer by its form is an integer or nothing, whatever other forms may fit it.** -/
theorem SaysInteger.ofValue_eq {v : Value} {text : String} (h : SaysInteger v text) :
    Expr.ofValue v = (Form.int text).toExpr := by
  have hread : ofValue? v = int? text := by cases h <;> rfl
  by_cases hint : IsInteger text
  · rw [Form.toExpr_int hint, Body.ofValue_eq_ok_iff, hread]
    exact int?_eq_some_iff.mpr ⟨hint, rfl⟩
  · have hnone : ofValue? v = none := by
      rw [hread, int?, if_neg fun hnumeral => hint (isNumeral_iff.mp hnumeral)]
    rw [Form.toExpr_badInteger hint, Expr.ofValue, hnone, intText?_eq_some_iff.mpr h]

/-- A value that is no integer by its form is an expression, or has no form. -/
theorem ofValue_of_intText? {v : Value} (h : intText? v = none) :
    Expr.ofValue v = match ofValue? v with
      | some e => .ok e
      | none => .error .noForm := by
  cases hread : ofValue? v <;> simp only [Expr.ofValue, hread, h]

section Arrays

variable {items : List Value}

/-- An array that does not begin with a string is a sequence or nothing. -/
theorem ofValue_array (h : ∀ text rest, items ≠ .string text :: rest) :
    Expr.ofValue (.array items) = ofForm (firstForm? (.array items)) := by
  have honly : ∀ name, only? name (.array items) = none := fun name => only?_array fun text => h text []
  have happlication : application? (.array items) = none := by
    unfold application?
    split
    · rename_i heq
      cases heq
    · rename_i name heq
      exact absurd (Value.array.inj heq) (h name [])
    · rename_i name args heq
      exact absurd (Value.array.inj heq) (h name _)
    · rename_i name args annots heq
      exact absurd (Value.array.inj heq) (h name _)
    · rfl
  rw [ofValue_of_intText? ((intText?_eq _).trans (honly "int")), firstForm?_eq, honly, honly, honly,
    happlication, sequence?, exprs?_eq, ofValue?_array h]
  cases ofValues? items <;> rfl

/-- A longer array that begins with a string is an application or nothing. -/
theorem ofValue_string_cons (name : String) (second : Value) (rest : List Value) :
    Expr.ofValue (.array (.string name :: second :: rest)) =
      ofForm (firstForm? (.array (.string name :: second :: rest))) := by
  have hfirst : firstForm? (.array (.string name :: second :: rest)) =
      application? (.array (.string name :: second :: rest)) := by
    rw [firstForm?_eq, sequence?, exprs?_string_cons]
    exact Option.or_none
  rw [hfirst, ofValue_of_intText? rfl]
  generalize hform : application? (.array (.string name :: second :: rest)) = form
  unfold application? at hform
  split at hform
  · rename_i heq
    cases heq
  · rename_i heq
    cases heq
  · rename_i args heq
    cases heq
    rw [← hform, ofValue?, exprs?_eq]
    cases ofValues? args <;> rfl
  · rename_i args annots heq
    cases heq
    rw [← hform, ofValue?, exprs?_eq]
    cases ofValues? args <;> cases strings? annots <;> rfl
  · rename_i htwo hthree
    have hnone : ofValues? (.string name :: second :: rest) = none := by
      rw [← exprs?_eq, exprs?_string_cons]
    rw [← hform, ofValue?, hnone]
    · rfl
    · nofun
    · exact fun name' args heq => htwo name' args (congrArg _ heq)
    · exact fun name' args annots heq => hthree name' args annots (congrArg _ heq)

end Arrays

theorem ofValue_object (members : List (String × Value)) :
    Expr.ofValue (.object members) = ofForm (firstForm? (.object members)) := by
  by_cases hint : ∃ text, members = [("int", .string text)]
  · obtain ⟨text, rfl⟩ := hint
    exact (SaysInteger.object text).ofValue_eq
  by_cases hstring : ∃ text, members = [("string", .string text)]
  · obtain ⟨text, rfl⟩ := hstring
    rfl
  by_cases hbytes : ∃ text, members = [("bytes", .string text)]
  · obtain ⟨hex, rfl⟩ := hbytes
    rfl
  have hnoInt := not_exists.mp hint
  have hnoString := not_exists.mp hstring
  have hnoBytes := not_exists.mp hbytes
  have hread : ofValue? (.object members) =
      (appMembers? ⟨none, none, none⟩ members).bind AppMembers.toExpr? := by
    rw [ofValue?]
    · exact hnoInt
    · exact hnoString
    · exact hnoBytes
  have hform : firstForm? (.object members) = application? (.object members) := by
    rw [firstForm?_eq, only?_object hnoInt, only?_object hnoString, only?_object hnoBytes]
    exact Option.or_none
  rw [ofValue_of_intText? ((intText?_eq _).trans (only?_object hnoInt)), hform, hread, application?]
  cases appMembers? ⟨none, none, none⟩ members with
  | none => rfl
  | some m =>
    obtain ⟨name, args, annots⟩ := m
    cases name <;> rfl

/-- **The reader takes the first form that fits, and makes an expression of it.** -/
theorem ofValue_eq_first (v : Value) : Expr.ofValue v = ofForm (firstForm? v) := by
  cases v with
  | array items =>
    by_cases hstring : ∃ text rest, items = .string text :: rest
    · obtain ⟨text, rest, rfl⟩ := hstring
      cases rest with
      | nil => exact (SaysInteger.array text).ofValue_eq
      | cons second rest => exact ofValue_string_cons text second rest
    · exact ofValue_array fun text rest heq => hstring ⟨text, rest, heq⟩
  | object members => exact ofValue_object members
  | _ => rfl

/-! ## 3. Which rejection -/

/-- **Of a bad integer the text is reported just if it is the value itself.** -/
theorem ofValue_eq_badInteger_iff {v : Value} {text : String} :
    Expr.ofValue v = .error (.badInteger text) ↔ SaysInteger v text ∧ ¬ IsInteger text := by
  constructor
  · intro h
    have hform : SaysInteger v text := by
      unfold Expr.ofValue at h
      split at h
      · cases h
      · split at h
        · rename_i text' htext
          cases h
          exact intText?_eq_some_iff.mp htext
        · cases h
    refine ⟨hform, fun hint => ?_⟩
    rw [hform.ofValue_eq, Form.toExpr_int hint] at h
    cases h
  · intro ⟨hform, hbad⟩
    rw [hform.ofValue_eq, Form.toExpr_badInteger hbad]

/-- **An integer is found first wherever it fits, and nowhere else.** -/
theorem firstForm?_eq_int_iff {v : Value} {text : String} :
    firstForm? v = some (.int text) ↔ SaysInteger v text := by
  constructor
  · intro h
    have hfirst := ofValue_eq_first v
    rw [h] at hfirst
    by_cases hint : IsInteger text
    · have hread : ofValue? v = some (.int text) :=
        Body.ofValue_eq_ok_iff.mp (hfirst.trans (Form.toExpr_int hint))
      cases denotes_of_ofValue? hread with
      | int => exact .object text
      | intArray => exact .array text
    · exact (ofValue_eq_badInteger_iff.mp (hfirst.trans (Form.toExpr_badInteger hint))).1
  · intro h
    rw [firstForm?_eq, ← intText?_eq, intText?_eq_some_iff.mpr h]
    rfl

/-- All other values that are rejected are rejected for want of a form. -/
theorem eq_noForm_iff {v : Value} {why : Rejection} (h : Expr.ofValue v = .error why) :
    why = .noForm ↔ ¬ ∃ text, SaysInteger v text ∧ ¬ IsInteger text := by
  cases why with
  | badInteger text =>
    have hform := ofValue_eq_badInteger_iff.mp h
    exact ⟨nofun, fun hno => absurd ⟨text, hform⟩ hno⟩
  | noForm =>
    refine ⟨fun _ hex => ?_, fun _ => rfl⟩
    obtain ⟨text, hform⟩ := hex
    rw [ofValue_eq_badInteger_iff.mpr hform] at h
    cases h

theorem eq_badInteger_iff {v : Value} {why : Rejection} (h : Expr.ofValue v = .error why)
    (text : String) : why = .badInteger text ↔ SaysInteger v text ∧ ¬ IsInteger text := by
  rw [← ofValue_eq_badInteger_iff, h, Except.error.injEq]

/-! ## 4. Right but for the digits -/

mutual

/-- The value would stand for the expression, if any text were an integer. -/
inductive Shaped : Value → Expr → Prop
  | int (text : String) : Shaped (.object [("int", .string text)]) (.int text)
  | string (text : String) : Shaped (.object [("string", .string text)]) (.string text)
  | bytes (hex : String) : Shaped (.object [("bytes", .string hex)]) (.bytes hex)
  | seq {items : List Value} {es : List Expr} (h : ShapedAll items es) :
    Shaped (.array items) (.seq es)
  | app {members argsPart annotsPart : List (String × Value)} {name : String} {args : List Expr}
    {annots : List String} (hargs : ShapedArgs argsPart args)
    (hannots : DenotesAnnots annotsPart annots)
    (hmembers : members.Perm (("prim", .string name) :: (argsPart ++ annotsPart))) :
    Shaped (.object members) (.app name args annots)
  | intArray (text : String) : Shaped (.array [.string text]) (.int text)
  | appArray {name : String} {vs : List Value} {args : List Expr} (h : ShapedAll vs args) :
    Shaped (.array [.string name, .array vs]) (.app name args [])
  | appArrayAnnots {name : String} {vs : List Value} {args : List Expr} (annots : List String)
    (h : ShapedAll vs args) :
    Shaped (.array [.string name, .array vs, .array (stringValues annots)]) (.app name args annots)

/-- The values would stand for the expressions, one by one. -/
inductive ShapedAll : List Value → List Expr → Prop
  | nil : ShapedAll [] []
  | cons {v : Value} {e : Expr} {vs : List Value} {es : List Expr} (h : Shaped v e)
    (hs : ShapedAll vs es) : ShapedAll (v :: vs) (e :: es)

/-- The member that would hold the arguments, if there is one. -/
inductive ShapedArgs : List (String × Value) → List Expr → Prop
  | absent : ShapedArgs [] []
  | present {vs : List Value} {es : List Expr} (h : ShapedAll vs es) :
    ShapedArgs [("args", .array vs)] es

end

theorem ShapedAll.ne_string_cons {vs : List Value} {es : List Expr} (h : ShapedAll vs es)
    (text : String) (rest : List Value) : vs ≠ .string text :: rest := by
  cases h with
  | nil => simp
  | cons h hs =>
    intro heq
    have hv := (List.cons.inj heq).1
    subst hv
    cases h

mutual

/-- **What has the shape of an expression is read as that expression if all integers in it are
    numerals, and as no other.** -/
theorem Shaped.ofValue?_eq_some_iff : ∀ {v : Value} {e : Expr}, Shaped v e → ∀ {e' : Expr},
    ofValue? v = some e' ↔ e.WellFormed ∧ e' = e
  | _, _, .int text, e' => by
    rw [Expr.wellFormed_int]
    exact int?_eq_some_iff
  | _, _, .string text, e' => by simp [ofValue?, eq_comm]
  | _, _, .bytes hex, e' => by simp [ofValue?, eq_comm]
  | _, _, .seq h, e' => by
    rw [ofValue?_array h.ne_string_cons, Expr.wellFormed_seq]
    exact map_eq_some_iff_of h.ofValues?_eq_some_iff
  | _, _, @Shaped.app _ _ _ name _ annots hargs hannots hmembers, e' => by
    rw [ofValue?_perm hmembers (by simp), Expr.wellFormed_app]
    rcases hargs.ofValues?_eq_some_iff with ⟨rfl, rfl⟩ | ⟨vs, rfl, hread⟩
    · cases hannots with
      | absent =>
        show ofValue? (.object [("prim", .string name)]) = some e' ↔ _
        rw [ofValue?_name]
        simp [eq_comm]
      | present =>
        show ofValue? (.object [("prim", .string name), ("annots", .array (stringValues annots))]) =
          some e' ↔ _
        rw [ofValue?_name_annots]
        simp [eq_comm]
    · cases hannots with
      | absent =>
        show ofValue? (.object [("prim", .string name), ("args", .array vs)]) = some e' ↔ _
        rw [ofValue?_name_args]
        exact map_eq_some_iff_of hread
      | present =>
        show ofValue? (.object [("prim", .string name), ("args", .array vs),
          ("annots", .array (stringValues annots))]) = some e' ↔ _
        rw [ofValue?_name_args_annots]
        exact map_eq_some_iff_of hread
  | _, _, .intArray text, e' => by
    rw [Expr.wellFormed_int]
    exact int?_eq_some_iff
  | _, _, .appArray h, e' => by
    rw [ofValue?, Expr.wellFormed_app]
    exact map_eq_some_iff_of h.ofValues?_eq_some_iff
  | _, _, @Shaped.appArrayAnnots name vs args annots h, e' => by
    have hread : ofValue? (.array [.string name, .array vs, .array (stringValues annots)]) =
        (ofValues? vs).map fun es => .app name es annots := by
      rw [ofValue?, strings?_stringValues]
      cases ofValues? vs <;> rfl
    rw [hread, Expr.wellFormed_app]
    exact map_eq_some_iff_of h.ofValues?_eq_some_iff

theorem ShapedAll.ofValues?_eq_some_iff : ∀ {vs : List Value} {es : List Expr}, ShapedAll vs es →
    ∀ {es' : List Expr}, ofValues? vs = some es' ↔ (∀ e ∈ es, e.WellFormed) ∧ es' = es
  | _, _, .nil, es' => by simp [ofValues?, eq_comm]
  | _, _, @ShapedAll.cons _ e _ es h hs, es' => by
    rw [ofValues?_cons_eq_some_iff, List.forall_mem_cons]
    constructor
    · intro ⟨e', rest', he, hrest, hcons⟩
      obtain ⟨hwf, rfl⟩ := h.ofValue?_eq_some_iff.mp he
      obtain ⟨hwfs, rfl⟩ := hs.ofValues?_eq_some_iff.mp hrest
      exact ⟨⟨hwf, hwfs⟩, hcons⟩
    · intro ⟨⟨hwf, hwfs⟩, hcons⟩
      exact ⟨e, es, h.ofValue?_eq_some_iff.mpr ⟨hwf, rfl⟩, hs.ofValues?_eq_some_iff.mpr ⟨hwfs, rfl⟩,
        hcons⟩

theorem ShapedArgs.ofValues?_eq_some_iff : ∀ {part : List (String × Value)} {es : List Expr},
    ShapedArgs part es → (part = [] ∧ es = []) ∨ ∃ vs, part = [("args", .array vs)] ∧
      ∀ {es' : List Expr}, ofValues? vs = some es' ↔ (∀ e ∈ es, e.WellFormed) ∧ es' = es
  | _, _, .absent => .inl ⟨rfl, rfl⟩
  | _, _, .present h => .inr ⟨_, rfl, h.ofValues?_eq_some_iff⟩

end

mutual

/-- What stands for an expression has its shape. -/
theorem Denotes.shaped : ∀ {v : Value} {e : Expr}, Denotes v e → Shaped v e
  | _, _, .int _ => .int _
  | _, _, .string text => .string text
  | _, _, .bytes hex => .bytes hex
  | _, _, .seq h => .seq h.shaped
  | _, _, .app hargs hannots hmembers => .app hargs.shaped hannots hmembers
  | _, _, .intArray _ => .intArray _
  | _, _, .appArray h => .appArray h.shaped
  | _, _, .appArrayAnnots annots h => .appArrayAnnots annots h.shaped

theorem DenotesAll.shaped : ∀ {vs : List Value} {es : List Expr}, DenotesAll vs es → ShapedAll vs es
  | _, _, .nil => .nil
  | _, _, .cons h hs => .cons h.shaped hs.shaped

theorem DenotesArgs.shaped : ∀ {part : List (String × Value)} {es : List Expr},
    DenotesArgs part es → ShapedArgs part es
  | _, _, .absent => .absent
  | _, _, .present h => .present h.shaped

end

/-- **To stand for an expression is to have its shape, with digits in all integers.** -/
theorem denotes_iff_shaped {v : Value} {e : Expr} : Denotes v e ↔ Shaped v e ∧ e.WellFormed := by
  constructor
  · intro h
    exact ⟨h.shaped, h.wellFormed⟩
  · intro ⟨hshaped, hwf⟩
    exact denotes_of_ofValue? (hshaped.ofValue?_eq_some_iff.mpr ⟨hwf, rfl⟩)

theorem SaysInteger.eq_object_or_array {v : Value} {text : String} (h : SaysInteger v text) :
    v = .object [("int", .string text)] ∨ v = .array [.string text] := by
  cases h with
  | object => exact .inl rfl
  | array => exact .inr rfl

/-- An integer by its form has the shape of nothing else. -/
theorem Shaped.eq_int {v : Value} {e : Expr} {text : String} (h : Shaped v e)
    (hint : SaysInteger v text) : e = .int text := by
  rcases hint.eq_object_or_array with hv | hv
  · cases h with
    | int => simpa using hv
    | app _ _ hmembers =>
      -- an application has a name
      obtain rfl := Value.object.inj hv
      have hprim := hmembers.mem_iff.mpr List.mem_cons_self
      simp at hprim
    | _ => simp at hv
  · cases h with
    | seq hitems => exact absurd (Value.array.inj hv) (hitems.ne_string_cons text [])
    | intArray => simpa using hv
    | _ => simp at hv

/-- **A bad integer inside a value is not reported: the value has no form, right as it is but for the
    digits.** -/
theorem Shaped.noForm {v : Value} {e : Expr} {text : String} (h : Shaped v e)
    (hinside : .int text ∈ e.nodes) (hbad : ¬ IsInteger text) (hroot : ¬ SaysInteger v text) :
    Expr.ofValue v = .error .noForm := by
  have hwf : ¬ e.WellFormed := fun hwf => hbad ((hwf _ hinside).2 text rfl)
  have hform : ¬ ∃ s, SaysInteger v s ∧ ¬ IsInteger s := by
    intro ⟨s, hs, _⟩
    obtain rfl := h.eq_int hs
    obtain rfl := Expr.int.inj (List.mem_singleton.mp hinside)
    exact hroot hs
  cases hread : Expr.ofValue v with
  | ok e' => exact absurd (h.ofValue?_eq_some_iff.mp (Body.ofValue_eq_ok_iff.mp hread)).1 hwf
  | error why => rw [(eq_noForm_iff hread).mpr hform]

/-! ## 5. What is told -/

/-- The two messages begin with different letters. -/
theorem invalid_ne_noForm (text : String) : "invalid Micheline integer " ++ text ≠
    "data did not match any variant of untagged enum RawPrim" := by
  intro h
  have hletters := congrArg String.toList h
  rw [String.toList_append] at hletters
  simp at hletters

theorem message_badInteger (text : String) :
    (Rejection.badInteger text).message = "invalid Micheline integer " ++ Quoted.render text := rfl

theorem message_noForm : Rejection.noForm.message =
    "data did not match any variant of untagged enum RawPrim" := rfl

theorem message_eq_invalid_iff {why : Rejection} {text : String} :
    why.message = "invalid Micheline integer " ++ Quoted.render text ↔ why = .badInteger text := by
  cases why with
  | badInteger s =>
    rw [message_badInteger, String.append_right_inj, Quoted.render_inj, Rejection.badInteger.injEq]
  | noForm =>
    rw [message_noForm]
    exact ⟨fun h => absurd h.symm (invalid_ne_noForm _), nofun⟩

theorem message_eq_noForm_iff {why : Rejection} :
    why.message = "data did not match any variant of untagged enum RawPrim" ↔ why = .noForm := by
  cases why with
  | badInteger text =>
    rw [message_badInteger]
    exact ⟨fun h => absurd h (invalid_ne_noForm _), nofun⟩
  | noForm => exact ⟨fun _ => rfl, fun _ => rfl⟩

/-- The failure is told by the root of the value: a bad integer there is shown, and else it is only
    said that there is no form. -/
def ToldByRoot (v : Value) (failure : Body.Failure) : Prop :=
  ∃ what, failure = .mismatch what ∧
    (∀ text, what.message = "invalid Micheline integer " ++ Quoted.render text ↔
      SaysInteger v text ∧ ¬ IsInteger text) ∧
    (what.message = "data did not match any variant of untagged enum RawPrim" ↔
      ¬ ∃ text, SaysInteger v text ∧ ¬ IsInteger text)

theorem toldByRoot_of_error {v : Value} {why : Rejection} (h : Expr.ofValue v = .error why) :
    ToldByRoot v (.mismatch (.expression why)) :=
  ⟨.expression why, rfl, fun text => message_eq_invalid_iff.trans (eq_badInteger_iff h text),
    message_eq_noForm_iff.trans (eq_noForm_iff h)⟩

/-- Of a value that is read in full an expression is made, or nothing. -/
theorem expr_of_readValue {room : Nat} {node : Json.Node} {v : Value}
    (h : Body.readValue room node = .ok v) :
    Body.expr room node =
      (Expr.ofValue v).mapError fun why => .mismatch (.expression why) := by
  simp only [Body.expr, h, bind, Except.bind]
  cases Expr.ofValue v <;> rfl

/-- What is read for an expression, in full but in vain, is told by its root. -/
theorem toldByRoot_of_expr {room : Nat} {node : Json.Node} {v : Value} {failure : Body.Failure}
    (hread : Body.readValue room node = .ok v) (h : Body.expr room node = .error failure) :
    ToldByRoot v failure := by
  rw [expr_of_readValue hread] at h
  cases hv : Expr.ofValue v with
  | ok e =>
    rw [hv] at h
    cases h
  | error why =>
    rw [hv] at h
    cases h
    exact toldByRoot_of_error hv

theorem toldByRoot_of_decode {text : String} {v : Value} {failure : Body.Failure}
    (hread : Body.decode Body.readValue text = .ok v)
    (h : Body.decode Body.expr text = .error failure) : ToldByRoot v failure := by
  obtain ⟨hroot, htrailing⟩ := Body.decode_eq_ok_iff.mp hread
  rw [Body.decode, htrailing] at h
  refine toldByRoot_of_expr hroot ?_
  rcases Body.bind_eq_error_iff.mp h with h | ⟨e, -, h⟩
  · exact h
  · cases h

/-- **A value is read by the first form that fits, at every depth, and an integer comes first: where it
    fits no other is tried. So the root of a value that is rejected tells all that is said of it, be it a
    value, a part of a body or a text: a bad integer is shown if it is the value itself, and for
    everything else there is no form. A bad integer inside a value that is otherwise right is no
    exception. A text within the limits that is rejected says a value, so this is so of every such
    text.** -/
theorem rejected_by_root :
    (∀ v, Expr.ofValue v = ofForm (firstForm? v)) ∧
    (∀ {v : Value} {text : String}, firstForm? v = some (.int text) ↔ SaysInteger v text) ∧
    (∀ {v : Value} {why : Rejection}, Expr.ofValue v = .error why →
      ToldByRoot v (.mismatch (.expression why))) ∧
    (∀ {room : Nat} {node : Json.Node} {v : Value} {failure : Body.Failure},
      Body.readValue room node = .ok v → Body.expr room node = .error failure →
        ToldByRoot v failure) ∧
    (∀ {text : String} {v : Value} {failure : Body.Failure},
      Body.decode Body.readValue text = .ok v → Body.decode Body.expr text = .error failure →
        ToldByRoot v failure) ∧
    (∀ {v : Value} {e : Expr}, Denotes v e ↔ Shaped v e ∧ e.WellFormed) ∧
    (∀ {v : Value} {e : Expr} {text : String}, Shaped v e → .int text ∈ e.nodes →
      ¬ IsInteger text → ¬ SaysInteger v text → Expr.ofValue v = .error .noForm) ∧
    (∀ {text : String} {node : Json.Node} {failure : Body.Failure},
      Body.WithinLimits Json.Number.largestRead text node →
      Body.decode Body.expr text = .error failure →
        ∃ v, node.Says v ∧ Body.decode Body.readValue text = .ok v ∧ ToldByRoot v failure) := by
  refine ⟨ofValue_eq_first, firstForm?_eq_int_iff, toldByRoot_of_error, toldByRoot_of_expr,
    toldByRoot_of_decode, denotes_iff_shaped, Shaped.noForm, fun hlimits hfailed => ?_⟩
  obtain ⟨v, hsaid, hv⟩ := hlimits.exists_says
  exact ⟨v, hsaid, hv, toldByRoot_of_decode hv hfailed⟩

/-- A bad integer in an array, where a string, a name or a list might be meant, and the same as the
    argument of an application. -/
theorem rejected_by_root_at_depths :
    let root : Value := .array [.string "x"]
    let inside : Value := .object [("prim", .string "Some"), ("args", .array [root])]
    let text := "\x7b\"prim\":\"Some\",\"args\":[[\"x\"]]\x7d"
    let bad : Body.Failure := .mismatch (.expression (.badInteger "x"))
    let formless : Body.Failure := .mismatch (.expression .noForm)
    (firstForm? root = some (.int "x") ∧ Expr.ofValue root = .error (.badInteger "x") ∧
      ToldByRoot root bad) ∧
    (Shaped inside (.app "Some" [.int "x"] []) ∧ Expr.ofValue inside = .error .noForm) ∧
    (Body.readValue 3 inside.outline = .ok inside ∧ Body.expr 3 inside.outline = .error formless ∧
      ToldByRoot inside formless) ∧
    (Body.decode Body.readValue text = .ok inside ∧ Body.decode Body.expr text = .error formless ∧
      ToldByRoot inside formless) ∧
    Body.WithinLimits Json.Number.largestRead text inside.outline ∧
    ∃ v, inside.outline.Says v ∧ Body.decode Body.readValue text = .ok v ∧ ToldByRoot v formless := by
  intro root inside text bad formless
  have hbad : ¬ IsInteger "x" := fun h => absurd (isNumeral_iff.mpr h) (by decide +kernel)
  have hroot : Expr.ofValue root = .error (.badInteger "x") :=
    ofValue_eq_badInteger_iff.mpr ⟨.array "x", hbad⟩
  have hshaped : Shaped inside (.app "Some" [.int "x"] []) :=
    .app (.present (.cons (.intArray "x") .nil)) .absent (.refl _)
  have hnot : ¬ SaysInteger inside "x" := fun h => by simpa [inside] using h.eq_object_or_array
  have hinside : Expr.ofValue inside = .error .noForm :=
    rejected_by_root.2.2.2.2.2.2.1 hshaped (by simp [Expr.nodes, Expr.nodesOfAll]) hbad hnot
  have hfree : inside.NumberFree := .object (by
    simpa using ⟨.string _, .array (by simpa using .array (by simpa using .string _))⟩)
  have htext : text = inside.text := by decide +kernel
  have hread : Body.readValue 3 inside.outline = .ok inside := by
    rw [Body.readValue_outline _ _ hfree, Body.ifRoom, if_pos (by decide +kernel)]
  have hexpr : Body.expr 3 inside.outline = .error formless := by
    rw [expr_of_readValue hread, hinside]
    rfl
  have hdecode : Body.decode Body.readValue text = .ok inside := by
    rw [htext]
    exact Body.decode_readValue_text hfree (by decide +kernel)
  have hroom : Body.expr Body.deepest inside.outline = Body.expr 3 inside.outline :=
    Body.expr_room (by decide +kernel) (by decide +kernel)
  have hfailed : Body.decode Body.expr text = .error formless := by
    rw [htext, Body.decode_text _ hfree, hroom, hexpr]
  have hlimits : Body.WithinLimits Json.Number.largestRead text inside.outline := by
    rw [htext]
    exact Body.withinLimits_text _ hfree (by decide +kernel)
  exact ⟨⟨rejected_by_root.2.1.mpr (.array "x"), hroot, rejected_by_root.2.2.1 hroot⟩,
    ⟨hshaped, hinside⟩, ⟨hread, hexpr, rejected_by_root.2.2.2.1 hread hexpr⟩,
    ⟨hdecode, hfailed, rejected_by_root.2.2.2.2.1 hdecode hfailed⟩,
    hlimits, rejected_by_root.2.2.2.2.2.2.2 hlimits hfailed⟩

end Micheline

end ContractQuery
