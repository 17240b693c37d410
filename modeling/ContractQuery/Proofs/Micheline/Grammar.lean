import ContractQuery.Proofs.Micheline.WellFormed
import ContractQuery.Micheline.Json

/-!
# The values that stand for expressions

`ofValue?` decides what a value stands for by going through forms in an order. Here the same is said
without an order:

* `Denotes v e`: the value `v` stands for the expression `e`. A leaf is an object with one member; an
  application is an object with its name, and its arguments and annotations if need be, in any order
  of the members; a sequence is an array. An integer and an application may also be arrays.
* **`denotes_of_ofValue?`**: what `ofValue?` answers stands in this relation. So what is to be shown
  of every expression that is read is shown by induction on `Denotes`, one case for each form.
-/

namespace ContractQuery

namespace Micheline

open Json (Value)

/-! ## 1. The relation -/

/-- The member that holds the annotations, if there is one. -/
inductive DenotesAnnots : List (String × Value) → List String → Prop
  | absent : DenotesAnnots [] []
  | present (annots : List String) :
    DenotesAnnots [("annots", .array (stringValues annots))] annots

mutual

/-- The value stands for the expression. -/
inductive Denotes : Value → Expr → Prop
  | int {text : String} (h : IsInteger text) :
    Denotes (.object [("int", .string text)]) (.int text)
  | string (text : String) : Denotes (.object [("string", .string text)]) (.string text)
  | bytes (hex : String) : Denotes (.object [("bytes", .string hex)]) (.bytes hex)
  | seq {items : List Value} {es : List Expr} (h : DenotesAll items es) :
    Denotes (.array items) (.seq es)
  /-- The members of an application, in any order. -/
  | app {members argsPart annotsPart : List (String × Value)} {name : String} {args : List Expr}
    {annots : List String} (hargs : DenotesArgs argsPart args)
    (hannots : DenotesAnnots annotsPart annots)
    (hmembers : members.Perm (("prim", .string name) :: (argsPart ++ annotsPart))) :
    Denotes (.object members) (.app name args annots)
  | intArray {text : String} (h : IsInteger text) : Denotes (.array [.string text]) (.int text)
  | appArray {name : String} {vs : List Value} {args : List Expr} (h : DenotesAll vs args) :
    Denotes (.array [.string name, .array vs]) (.app name args [])
  | appArrayAnnots {name : String} {vs : List Value} {args : List Expr} (annots : List String)
    (h : DenotesAll vs args) :
    Denotes (.array [.string name, .array vs, .array (stringValues annots)]) (.app name args annots)

/-- The values stand for the expressions, one by one. -/
inductive DenotesAll : List Value → List Expr → Prop
  | nil : DenotesAll [] []
  | cons {v : Value} {e : Expr} {vs : List Value} {es : List Expr} (h : Denotes v e)
    (hs : DenotesAll vs es) : DenotesAll (v :: vs) (e :: es)

/-- The member that holds the arguments, if there is one. -/
inductive DenotesArgs : List (String × Value) → List Expr → Prop
  | absent : DenotesArgs [] []
  | present {vs : List Value} {es : List Expr} (h : DenotesAll vs es) :
    DenotesArgs [("args", .array vs)] es

end

/-! ## 2. The members of an application -/

/-- The member `part` that gave a field its value `after`, where it had the value `before`: none, or
    the one under the name of the field. -/
def FieldFrom {α : Type} (name : String) (tells : Value → α → Prop) (part : List (String × Value))
    (before after : Option α) : Prop :=
  (part = [] ∧ after = before) ∨
    ∃ v a, part = [(name, v)] ∧ tells v a ∧ before = none ∧ after = some a

theorem FieldFrom.none_of_some {α : Type} {name : String} {tells : Value → α → Prop}
    {part : List (String × Value)} {a : α} {after : Option α}
    (h : FieldFrom name tells part (some a) after) : part = [] ∧ after = some a := by
  rcases h with h | ⟨v, a', -, -, hnone, -⟩
  · exact h
  · cases hnone

/-! ## 3. What the reader answers -/

theorem int?_eq_some_iff {text : String} {e : Expr} :
    int? text = some e ↔ IsInteger text ∧ e = .int text := by
  rw [← isNumeral_iff, int?]
  split
  · rename_i h
    simp [h, eq_comm]
  · rename_i h
    simp [h]

theorem ofValues?_cons_eq_some_iff {v : Value} {rest : List Value} {es : List Expr} :
    ofValues? (v :: rest) = some es ↔
      ∃ e es', ofValue? v = some e ∧ ofValues? rest = some es' ∧ es = e :: es' := by
  rw [ofValues?]
  cases ofValue? v <;> cases ofValues? rest <;> simp [eq_comm]

theorem eq_stringValues_of_strings? : ∀ {vs : List Value} {texts : List String},
    strings? vs = some texts → vs = stringValues texts
  | [], texts, h => by
    cases h
    rfl
  | v :: rest, texts, h => by
    unfold strings? at h
    split at h
    · rename_i hnil
      cases hnil
    · rename_i text rest' hcons
      cases hcons
      obtain ⟨texts', hrest, rfl⟩ := Option.map_eq_some_iff.mp h
      rw [eq_stringValues_of_strings? hrest]
      rfl
    · cases h

/-- What the members of an application are, after those met so far: for each of its fields at most
    one member, and none if the field was met. -/
def PartsOf (met : AppMembers) (members : List (String × Value)) (m : AppMembers) : Prop :=
  ∃ namePart argsPart annotsPart, members.Perm (namePart ++ (argsPart ++ annotsPart)) ∧
    FieldFrom "prim" (fun v name => v = .string name) namePart met.name m.name ∧
    FieldFrom "args" (fun v es => ∃ vs, v = .array vs ∧ DenotesAll vs es) argsPart met.args m.args ∧
    FieldFrom "annots" (fun v texts => v = .array (stringValues texts)) annotsPart met.annots m.annots

theorem PartsOf.nil (met : AppMembers) : PartsOf met [] met :=
  ⟨[], [], [], .nil, .inl ⟨rfl, rfl⟩, .inl ⟨rfl, rfl⟩, .inl ⟨rfl, rfl⟩⟩

theorem PartsOf.name {met m : AppMembers} {name : String} {rest : List (String × Value)}
    (hmet : met.name = none) (h : PartsOf { met with name := some name } rest m) :
    PartsOf met (("prim", .string name) :: rest) m := by
  obtain ⟨namePart, argsPart, annotsPart, hperm, hname, hargs, hannots⟩ := h
  obtain ⟨rfl, hm⟩ := hname.none_of_some
  exact ⟨_, argsPart, annotsPart, hperm.cons _, .inr ⟨_, name, rfl, rfl, hmet, hm⟩, hargs, hannots⟩

theorem PartsOf.args {met m : AppMembers} {vs : List Value} {es : List Expr}
    {rest : List (String × Value)} (hmet : met.args = none) (hvs : DenotesAll vs es)
    (h : PartsOf { met with args := some es } rest m) :
    PartsOf met (("args", .array vs) :: rest) m := by
  obtain ⟨namePart, argsPart, annotsPart, hperm, hname, hargs, hannots⟩ := h
  obtain ⟨rfl, hm⟩ := hargs.none_of_some
  refine ⟨namePart, [("args", .array vs)], annotsPart, ?_, hname,
    .inr ⟨_, es, rfl, ⟨vs, rfl, hvs⟩, hmet, hm⟩, hannots⟩
  exact (hperm.cons _).trans List.perm_middle.symm

theorem PartsOf.annots {met m : AppMembers} {texts : List String} {rest : List (String × Value)}
    (hmet : met.annots = none) (h : PartsOf { met with annots := some texts } rest m) :
    PartsOf met (("annots", .array (stringValues texts)) :: rest) m := by
  obtain ⟨namePart, argsPart, annotsPart, hperm, hname, hargs, hannots⟩ := h
  obtain ⟨rfl, hm⟩ := hannots.none_of_some
  refine ⟨namePart, argsPart, [("annots", .array (stringValues texts))], ?_, hname, hargs,
    .inr ⟨_, texts, rfl, rfl, hmet, hm⟩⟩
  rw [List.append_nil] at hperm
  rw [← List.append_assoc]
  exact (hperm.cons _).trans (List.perm_append_singleton _ _).symm

/-- The parts of an application make up its value. -/
theorem denotes_of_partsOf {members : List (String × Value)} {m : AppMembers} {e : Expr}
    (h : PartsOf ⟨none, none, none⟩ members m) (he : m.toExpr? = some e) :
    Denotes (.object members) e := by
  obtain ⟨namePart, argsPart, annotsPart, hperm, hname, hargs, hannots⟩ := h
  obtain ⟨name, hm, rfl⟩ := Option.map_eq_some_iff.mp he
  have hprim : namePart = [("prim", .string name)] := by
    rcases hname with ⟨-, hnone⟩ | ⟨v, a, rfl, rfl, -, hsome⟩
    · rw [hm] at hnone
      cases hnone
    · rw [hm] at hsome
      cases hsome
      rfl
  have hargs' : DenotesArgs argsPart (m.args.getD []) := by
    rcases hargs with ⟨rfl, hnone⟩ | ⟨v, es, rfl, ⟨vs, rfl, hvs⟩, -, hsome⟩
    · rw [hnone]
      exact .absent
    · rw [hsome]
      exact .present hvs
  have hannots' : DenotesAnnots annotsPart (m.annots.getD []) := by
    rcases hannots with ⟨rfl, hnone⟩ | ⟨v, texts, rfl, rfl, -, hsome⟩
    · rw [hnone]
      exact .absent
    · rw [hsome]
      exact .present texts
  subst hprim
  exact .app hargs' hannots' hperm

/-- **A value stands for what the reader answers.** -/
theorem denotes_of_ofValue? {v : Value} : ∀ {e : Expr}, ofValue? v = some e → Denotes v e := by
  -- the cases are those of the reader: of a value, of a list, and of the members of an application,
  -- where the parts met so far have to be carried along
  induction v using (fun motive => ofValue?.induct motive
      (fun met members => ∀ m, appMembers? met members = some m → PartsOf met members m)
      (fun vs => ∀ es, ofValues? vs = some es → DenotesAll vs es)) with
  | case1 text =>
    intro e h
    rw [ofValue?] at h
    obtain ⟨hint, rfl⟩ := int?_eq_some_iff.mp h
    exact .intArray hint
  | case2 name args ih =>
    intro e h
    rw [ofValue?] at h
    obtain ⟨es, hes, rfl⟩ := Option.map_eq_some_iff.mp h
    exact .appArray (ih es hes)
  | case3 name args annots es texts htexts hes ih =>
    intro e h
    simp only [ofValue?, hes, htexts, Option.some.injEq] at h
    subst h
    rw [eq_stringValues_of_strings? htexts]
    exact .appArrayAnnots texts (ih es hes)
  | case4 name args annots hnone ih =>
    intro e h
    rw [ofValue?] at h
    split at h
    · rename_i es texts hes htexts
      exact absurd htexts (hnone es texts hes)
    · cases h
  | case5 items h1 h2 h3 ih =>
    intro e h
    rw [ofValue?] at h
    · obtain ⟨es, hes, rfl⟩ := Option.map_eq_some_iff.mp h
      exact .seq (ih es hes)
    · exact h1
    · exact h2
    · exact h3
  | case6 text =>
    intro e h
    rw [ofValue?] at h
    obtain ⟨hint, rfl⟩ := int?_eq_some_iff.mp h
    exact .int hint
  | case7 text =>
    intro e h
    cases h
    exact .string text
  | case8 hex =>
    intro e h
    cases h
    exact .bytes hex
  | case9 members h1 h2 h3 ih =>
    intro e h
    rw [ofValue?] at h
    · obtain ⟨m, hm, he⟩ := Option.bind_eq_some_iff.mp h
      exact denotes_of_partsOf (ih m hm) he
    · exact h1
    · exact h2
    · exact h3
  | case10 v _ _ _ harray _ _ _ hobject =>
    intro e h
    cases v with
    | array items => exact absurd rfl (harray items)
    | object members => exact absurd rfl (hobject members)
    | _ => cases h
  | case11 es h =>
    cases h
    exact .nil
  | case12 v rest e es hes he ihv ihrest es' h =>
    obtain ⟨e', es'', he', hes', rfl⟩ := ofValues?_cons_eq_some_iff.mp h
    exact .cons (ihv he') (ihrest _ hes')
  | case13 v rest hnone ihv ihrest es' h =>
    obtain ⟨e', es'', he', hes', rfl⟩ := ofValues?_cons_eq_some_iff.mp h
    exact .cons (ihv he') (ihrest _ hes')
  | case14 met m h =>
    cases h
    exact .nil met
  | case15 met name rest hmet m h =>
    simp only [appMembers?, hmet, ↓reduceIte, reduceCtorEq] at h
  | case16 met name rest hmet ih m h =>
    simp only [appMembers?, hmet, ↓reduceIte, Bool.false_eq_true] at h
    exact .name (Option.not_isSome_iff_eq_none.mp hmet) (ih m h)
  | case17 met vs rest hmet m h =>
    simp only [appMembers?, hmet, ↓reduceIte, reduceCtorEq] at h
  | case18 met vs rest hmet es hes ihvs ih m h =>
    simp only [appMembers?, hmet, ↓reduceIte, Bool.false_eq_true, hes] at h
    exact .args (Option.not_isSome_iff_eq_none.mp hmet) (ihvs es hes) (ih m h)
  | case19 met vs rest hmet hes ihvs m h =>
    simp only [appMembers?, hmet, ↓reduceIte, Bool.false_eq_true, hes, reduceCtorEq] at h
  | case20 met vs rest hmet m h =>
    simp only [appMembers?, hmet, ↓reduceIte, reduceCtorEq] at h
  | case21 met vs rest hmet texts htexts ih m h =>
    simp only [appMembers?, hmet, ↓reduceIte, Bool.false_eq_true, htexts] at h
    rw [eq_stringValues_of_strings? htexts]
    exact .annots (Option.not_isSome_iff_eq_none.mp hmet) (ih m h)
  | case22 met vs rest hmet htexts m h =>
    simp only [appMembers?, hmet, ↓reduceIte, Bool.false_eq_true, htexts, reduceCtorEq] at h
  | case23 met member rest hname hargs hannots m h =>
    rw [appMembers?] at h
    · cases h
    · exact hname
    · exact hargs
    · exact hannots

end Micheline

end ContractQuery
