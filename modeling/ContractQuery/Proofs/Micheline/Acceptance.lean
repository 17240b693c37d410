import ContractQuery.Proofs.Body.Representable
import ContractQuery.Proofs.Micheline.RoundTrip

/-!
# Just these values stand for expressions

What the reader answers stands in the relation `Denotes` (`denotes_of_ofValue?`). Here the other half
is shown, that it answers all of it, and so the relation is a grammar for what is accepted.

* `appMembers?_perm`: the members of an application may come in any order, for two of them can
  change places;
* **`Denotes.ofValue?`**: whatever a value stands for is what the reader answers. So a value stands
  for one expression at most (`Denotes.unique`);
* `Denotes.onlyFitting`: at every depth of a value that stands for an expression there are only
  strings, arrays, and objects with the members of one kind of node;
* **`decode_eq_ok_iff_denotes`**: all this of the texts that are decoded.
-/

namespace ContractQuery

namespace Micheline

open Json (Value nodesOfItems nodesOfMembers mem_nodesOfItems mem_nodesOfMembers)

/-! ## 1. The order of members -/

/-- The members of an application with one more, if it is not foreign, repeated or of the wrong
    type. -/
def AppMembers.take? (met : AppMembers) : String × Value → Option AppMembers
  | ("prim", .string name) =>
    if met.name.isSome then none else some { met with name := some name }
  | ("args", .array args) =>
    if met.args.isSome then none
    else (ofValues? args).map fun es => { met with args := some es }
  | ("annots", .array annots) =>
    if met.annots.isSome then none
    else (strings? annots).map fun texts => { met with annots := some texts }
  | _ => none

/-- The reader takes the members one by one. -/
theorem appMembers?_cons (met : AppMembers) (m : String × Value) (rest : List (String × Value)) :
    appMembers? met (m :: rest) = (met.take? m).bind (appMembers? · rest) := by
  unfold AppMembers.take?
  split
  · rw [appMembers?]
    split <;> rfl
  · rename_i vs
    rw [appMembers?]
    split
    · rfl
    · cases ofValues? vs <;> rfl
  · rename_i vs
    rw [appMembers?]
    split
    · rfl
    · cases strings? vs <;> rfl
  · rename_i hname hargs hannots
    rw [appMembers?]
    · rfl
    · exact hname
    · exact hargs
    · exact hannots

/-- A member belongs to one of the three fields, or is never taken. -/
theorem AppMembers.take?_cases (m : String × Value) :
    (∃ name, m = ("prim", .string name)) ∨ (∃ vs, m = ("args", .array vs)) ∨
      (∃ vs, m = ("annots", .array vs)) ∨ ∀ met : AppMembers, met.take? m = none := by
  by_cases hname : ∃ name, m = ("prim", .string name)
  · exact .inl hname
  by_cases hargs : ∃ vs, m = ("args", .array vs)
  · exact .inr (.inl hargs)
  by_cases hannots : ∃ vs, m = ("annots", .array vs)
  · exact .inr (.inr (.inl hannots))
  refine .inr (.inr (.inr fun met => ?_))
  unfold AppMembers.take?
  split
  · exact absurd ⟨_, rfl⟩ hname
  · exact absurd ⟨_, rfl⟩ hargs
  · exact absurd ⟨_, rfl⟩ hannots
  · rfl

section Take

variable (met : AppMembers)

theorem AppMembers.take?_prim (name : String) : met.take? ("prim", .string name) =
    if met.name.isSome then none else some { met with name := some name } := rfl

theorem AppMembers.take?_args (args : List Value) : met.take? ("args", .array args) =
    if met.args.isSome then none
    else (ofValues? args).map fun es => { met with args := some es } := rfl

theorem AppMembers.take?_annots (annots : List Value) : met.take? ("annots", .array annots) =
    if met.annots.isSome then none
    else (strings? annots).map fun texts => { met with annots := some texts } := rfl

/-- **Two members can change places.** -/
theorem AppMembers.take?_comm (a b : String × Value) :
    (met.take? a).bind (·.take? b) = (met.take? b).bind (·.take? a) := by
  obtain ⟨name, args, annots⟩ := met
  -- of one field the second member is refused, and two fields do not touch each other
  rcases take?_cases a with ⟨n, rfl⟩ | ⟨vs, rfl⟩ | ⟨vs, rfl⟩ | ha
  · rcases take?_cases b with ⟨n', rfl⟩ | ⟨ws, rfl⟩ | ⟨ws, rfl⟩ | hb
    · cases name <;> rfl
    · simp only [take?_prim, take?_args]
      generalize ofValues? ws = es
      cases es <;> cases name <;> cases args <;> rfl
    · simp only [take?_prim, take?_annots]
      generalize strings? ws = texts
      cases texts <;> cases name <;> cases annots <;> rfl
    · simp [hb]
  · rcases take?_cases b with ⟨n', rfl⟩ | ⟨ws, rfl⟩ | ⟨ws, rfl⟩ | hb
    · simp only [take?_prim, take?_args]
      generalize ofValues? vs = es
      cases es <;> cases name <;> cases args <;> rfl
    · simp only [take?_args]
      generalize ofValues? vs = es
      generalize ofValues? ws = es'
      cases es <;> cases es' <;> cases args <;> rfl
    · simp only [take?_args, take?_annots]
      generalize ofValues? vs = es
      generalize strings? ws = texts
      cases es <;> cases texts <;> cases args <;> cases annots <;> rfl
    · simp [hb]
  · rcases take?_cases b with ⟨n', rfl⟩ | ⟨ws, rfl⟩ | ⟨ws, rfl⟩ | hb
    · simp only [take?_prim, take?_annots]
      generalize strings? vs = texts
      cases texts <;> cases name <;> cases annots <;> rfl
    · simp only [take?_args, take?_annots]
      generalize strings? vs = texts
      generalize ofValues? ws = es
      cases es <;> cases texts <;> cases args <;> cases annots <;> rfl
    · simp only [take?_annots]
      generalize strings? vs = texts
      generalize strings? ws = texts'
      cases texts <;> cases texts' <;> cases annots <;> rfl
    · simp [hb]
  · simp [ha]

end Take

theorem appMembers?_perm {members members' : List (String × Value)} (h : members.Perm members') :
    ∀ met : AppMembers, appMembers? met members = appMembers? met members' := by
  induction h with
  | nil => exact fun _ => rfl
  | cons m _ ih =>
    intro met
    rw [appMembers?_cons, appMembers?_cons]
    exact congrArg _ (funext ih)
  | swap a b rest =>
    intro met
    have hcomm := AppMembers.take?_comm met b a
    simp only [appMembers?_cons, ← Option.bind_assoc, hcomm]
  | trans _ _ ih ih' => exact fun met => (ih met).trans (ih' met)

/-- An object with a member `prim` is read as an application. -/
theorem ofValue?_object {members : List (String × Value)} (h : "prim" ∈ members.map Prod.fst) :
    ofValue? (.object members) = (appMembers? ⟨none, none, none⟩ members).bind AppMembers.toExpr? := by
  -- the objects of the three leaves have one member, under another name
  rw [ofValue?]
  · intro text hmembers
    simp [hmembers] at h
  · intro text hmembers
    simp [hmembers] at h
  · intro hex hmembers
    simp [hmembers] at h

theorem ofValue?_perm {members members' : List (String × Value)} (hperm : members.Perm members')
    (h : "prim" ∈ members'.map Prod.fst) :
    ofValue? (.object members) = ofValue? (.object members') := by
  have hmem := (hperm.map Prod.fst).mem_iff.mpr h
  rw [ofValue?_object hmem, ofValue?_object h, appMembers?_perm hperm]

/-! ## 2. All of the grammar is read -/

/-- Of several values that stand for expressions the first is no string. -/
theorem DenotesAll.ne_string_cons {vs : List Value} {es : List Expr} (h : DenotesAll vs es)
    (text : String) (rest : List Value) : vs ≠ .string text :: rest := by
  cases h with
  | nil => simp
  | cons h hs =>
    intro heq
    have hv := (List.cons.inj heq).1
    subst hv
    cases h

mutual

/-- **The reader answers what a value stands for.** -/
theorem Denotes.ofValue? : ∀ {v : Value} {e : Expr}, Denotes v e → ofValue? v = some e
  | _, _, .int h => int?_eq_some_iff.mpr ⟨h, rfl⟩
  | _, _, .string _ => rfl
  | _, _, .bytes _ => rfl
  | _, _, .seq h => by
    have hes := h.ofValues?
    rw [ofValue?_array h.ne_string_cons, hes]
    rfl
  | _, _, @Denotes.app _ _ _ name _ annots hargs hannots hmembers => by
    rw [ofValue?_perm hmembers (by simp)]
    rcases hargs.ofValues? with ⟨rfl, rfl⟩ | ⟨vs, rfl, hes⟩
    · cases hannots with
      | absent => exact ofValue?_name name
      | present => exact ofValue?_name_annots name annots
    · cases hannots with
      | absent =>
        have hread := ofValue?_name_args name vs
        rw [hes] at hread
        exact hread
      | present =>
        have hread := ofValue?_name_args_annots name vs annots
        rw [hes] at hread
        exact hread
  | _, _, .intArray h => int?_eq_some_iff.mpr ⟨h, rfl⟩
  | _, _, .appArray h => by
    have hes := h.ofValues?
    rw [Micheline.ofValue?, hes]
    rfl
  | _, _, .appArrayAnnots annots h => by
    have hes := h.ofValues?
    rw [Micheline.ofValue?, hes, strings?_stringValues]

theorem DenotesAll.ofValues? : ∀ {vs : List Value} {es : List Expr}, DenotesAll vs es →
    ofValues? vs = some es
  | _, _, .nil => rfl
  | _, _, .cons h hs => ofValues?_cons_eq_some_iff.mpr ⟨_, _, h.ofValue?, hs.ofValues?, rfl⟩

theorem DenotesArgs.ofValues? : ∀ {part : List (String × Value)} {es : List Expr},
    DenotesArgs part es →
    (part = [] ∧ es = []) ∨ ∃ vs, part = [("args", .array vs)] ∧ ofValues? vs = some es
  | _, _, .absent => .inl ⟨rfl, rfl⟩
  | _, _, .present h => .inr ⟨_, rfl, h.ofValues?⟩

end

theorem ofValue?_eq_some_iff {v : Value} {e : Expr} : ofValue? v = some e ↔ Denotes v e :=
  ⟨denotes_of_ofValue?, Denotes.ofValue?⟩

/-- **A value stands for one expression at most.** -/
theorem Denotes.unique {v : Value} {e e' : Expr} (h : Denotes v e) (h' : Denotes v e') : e = e' := by
  have heq := h.ofValue?
  rw [h'.ofValue?] at heq
  exact (Option.some.inj heq).symm

/-! ## 3. What has no place in the grammar -/

/-- What may be found in a value that stands for an expression: strings, arrays, and objects with the
    members of one kind of node, none of them twice. -/
inductive Fitting : Value → Prop
  | string (text : String) : Fitting (.string text)
  | array (items : List Value) : Fitting (.array items)
  | leaf {name : String} (hname : name = "int" ∨ name = "string" ∨ name = "bytes") (text : String) :
    Fitting (.object [(name, .string text)])
  | app {members : List (String × Value)} (hdistinct : (members.map Prod.fst).Nodup)
    (hprim : "prim" ∈ members.map Prod.fst)
    (hnames : ∀ name ∈ members.map Prod.fst, name = "prim" ∨ name = "args" ∨ name = "annots") :
    Fitting (.object members)

/-- Nothing else is found in the value, at any depth. -/
def OnlyFitting (v : Value) : Prop := ∀ w ∈ v.nodes, Fitting w

theorem onlyFitting_string (text : String) : OnlyFitting (.string text) := by
  intro w hw
  obtain rfl := List.mem_singleton.mp hw
  exact .string text

theorem onlyFitting_array {items : List Value} (h : ∀ v ∈ items, OnlyFitting v) :
    OnlyFitting (.array items) := by
  intro w hw
  rcases List.mem_cons.mp hw with rfl | hw
  · exact .array items
  · obtain ⟨v, hv, hw⟩ := mem_nodesOfItems.mp hw
    exact h v hv w hw

theorem onlyFitting_object {members : List (String × Value)} (h : Fitting (.object members))
    (hvalues : ∀ m ∈ members, OnlyFitting m.2) : OnlyFitting (.object members) := by
  intro w hw
  rcases List.mem_cons.mp hw with rfl | hw
  · exact h
  · obtain ⟨m, hm, hw⟩ := mem_nodesOfMembers.mp hw
    exact hvalues m hm w hw

theorem onlyFitting_leaf {name : String} (h : name = "int" ∨ name = "string" ∨ name = "bytes")
    (text : String) : OnlyFitting (.object [(name, .string text)]) :=
  onlyFitting_object (.leaf h text) fun m hm => by
    obtain rfl := List.mem_singleton.mp hm
    exact onlyFitting_string text

theorem onlyFitting_stringValues (texts : List String) :
    OnlyFitting (.array (stringValues texts)) :=
  onlyFitting_array fun v hv => by
    obtain ⟨text, -, rfl⟩ := List.mem_map.mp hv
    exact onlyFitting_string text

/-- The members of an application are distinct, and of the three names. -/
theorem fitting_app {members argsPart annotsPart : List (String × Value)} {name : String}
    {args : List Expr} {annots : List String} (hargs : DenotesArgs argsPart args)
    (hannots : DenotesAnnots annotsPart annots)
    (hmembers : members.Perm (("prim", .string name) :: (argsPart ++ annotsPart))) :
    Fitting (.object members) := by
  have hperm := hmembers.map Prod.fst
  have hdistinct : ((("prim", Value.string name) :: (argsPart ++ annotsPart)).map Prod.fst).Nodup := by
    cases hargs <;> cases hannots <;> simp
  have hnames : ∀ n ∈ (("prim", Value.string name) :: (argsPart ++ annotsPart)).map Prod.fst,
      n = "prim" ∨ n = "args" ∨ n = "annots" := by
    cases hargs <;> cases hannots <;> simp
  exact .app (hperm.nodup_iff.mpr hdistinct) (hperm.mem_iff.mpr List.mem_cons_self)
    fun n hn => hnames n (hperm.mem_iff.mp hn)

theorem DenotesAnnots.onlyFitting {part : List (String × Value)} {annots : List String}
    (h : DenotesAnnots part annots) : ∀ m ∈ part, OnlyFitting m.2 := by
  cases h with
  | absent => simp
  | present => simpa using onlyFitting_stringValues annots

mutual

/-- **In a value that stands for an expression there is nothing at any depth that does not fit.** -/
theorem Denotes.onlyFitting : ∀ {v : Value} {e : Expr}, Denotes v e → OnlyFitting v
  | _, _, .int _ => onlyFitting_leaf (.inl rfl) _
  | _, _, .string _ => onlyFitting_leaf (.inr (.inl rfl)) _
  | _, _, .bytes _ => onlyFitting_leaf (.inr (.inr rfl)) _
  | _, _, .seq h => onlyFitting_array h.onlyFitting
  | _, _, @Denotes.app _ _ _ name _ _ hargs hannots hmembers => by
    have hinside := hargs.onlyFitting
    refine onlyFitting_object (fitting_app hargs hannots hmembers) fun m hm => ?_
    rcases List.mem_cons.mp (hmembers.mem_iff.mp hm) with rfl | hm
    · exact onlyFitting_string name
    · rcases List.mem_append.mp hm with hm | hm
      · exact hinside m hm
      · exact hannots.onlyFitting m hm
  | _, _, .intArray _ => onlyFitting_stringValues [_]
  | _, _, .appArray h => by
    have hargs := onlyFitting_array h.onlyFitting
    exact onlyFitting_array (by simpa using ⟨onlyFitting_string _, hargs⟩)
  | _, _, .appArrayAnnots annots h => by
    have hargs := onlyFitting_array h.onlyFitting
    have hannots := onlyFitting_stringValues annots
    exact onlyFitting_array (by simpa using ⟨onlyFitting_string _, hargs, hannots⟩)

theorem DenotesAll.onlyFitting : ∀ {vs : List Value} {es : List Expr}, DenotesAll vs es →
    ∀ v ∈ vs, OnlyFitting v
  | _, _, .nil => by simp
  | _, _, .cons h hs => List.forall_mem_cons.mpr ⟨h.onlyFitting, hs.onlyFitting⟩

theorem DenotesArgs.onlyFitting : ∀ {part : List (String × Value)} {es : List Expr},
    DenotesArgs part es → ∀ m ∈ part, OnlyFitting m.2
  | _, _, .absent => by simp
  | _, _, .present h => by simpa using onlyFitting_array h.onlyFitting

end

/-- What stands for an expression is an array or an object. -/
theorem Denotes.array_or_object {v : Value} {e : Expr} (h : Denotes v e) :
    (∃ items, v = .array items) ∨ ∃ members, v = .object members := by
  cases h with
  | int => exact .inr ⟨_, rfl⟩
  | string => exact .inr ⟨_, rfl⟩
  | bytes => exact .inr ⟨_, rfl⟩
  | seq => exact .inl ⟨_, rfl⟩
  | app => exact .inr ⟨_, rfl⟩
  | intArray => exact .inl ⟨_, rfl⟩
  | appArray => exact .inl ⟨_, rfl⟩
  | appArrayAnnots => exact .inl ⟨_, rfl⟩

/-! ## 4. Texts -/

/-- A text is decoded to an expression through the value it says. -/
theorem decode_expr_eq_ok_iff {text : String} {e : Expr} :
    Body.decode Body.expr text = .ok e ↔
      ∃ v, Body.decode Body.readValue text = .ok v ∧ Denotes v e := by
  simp only [Body.decode_eq_ok_iff, Body.expr_eq_ok_iff, ofValue?_eq_some_iff]
  constructor
  · intro ⟨⟨v, hv, he⟩, htrailing⟩
    exact ⟨v, ⟨hv, htrailing⟩, he⟩
  · intro ⟨v, ⟨hv, htrailing⟩, he⟩
    exact ⟨⟨v, hv, he⟩, htrailing⟩

/-- **A value is accepted as an expression if and only if it stands for it; a text, if and only if it
    says such a value. No value stands for two expressions. One that stands for an expression is an
    array or an object, and there is nothing in it at any depth but strings, arrays, and objects with
    the members of one kind of node: no `null`, no number, no repeated or foreign member. Every text within
    the limits says a value, so of these texts the value alone decides.** -/
theorem decode_eq_ok_iff_denotes :
    (∀ {v : Value} {e : Expr}, Expr.ofValue v = .ok e ↔ Denotes v e) ∧
    (∀ {text : String} {e : Expr}, Body.decode Body.expr text = .ok e ↔
      ∃ v, Body.decode Body.readValue text = .ok v ∧ Denotes v e) ∧
    (∀ {v : Value} {e e' : Expr}, Denotes v e → Denotes v e' → e = e') ∧
    (∀ {v : Value} {e : Expr}, Denotes v e →
      ((∃ items, v = .array items) ∨ ∃ members, v = .object members) ∧ ∀ w ∈ v.nodes, Fitting w) ∧
    (∀ {text : String} {node : Json.Node},
      Body.WithinLimits Json.Number.largestRead text node →
        ∃ v, node.Says v ∧ Body.decode Body.readValue text = .ok v ∧
          ∀ e, Body.decode Body.expr text = .ok e ↔ Denotes v e) := by
  refine ⟨Body.ofValue_eq_ok_iff.trans ofValue?_eq_some_iff, decode_expr_eq_ok_iff, Denotes.unique,
    fun h => ⟨h.array_or_object, h.onlyFitting⟩, fun {text node} h => ?_⟩
  obtain ⟨v, hsaid, hv⟩ := h.exists_says
  refine ⟨v, hsaid, hv, fun e => ?_⟩
  rw [decode_expr_eq_ok_iff, hv]
  simp only [Except.ok.injEq, exists_eq_left']

/-- An application with its members the other way round, and an integer in an array. -/
theorem decode_members_reversed :
    let text := "\x7b\"annots\":[\"%a\"],\"args\":[[\"7\"]],\"prim\":\"Pair\"\x7d"
    let v : Value := .object [("annots", .array [.string "%a"]),
      ("args", .array [.array [.string "7"]]), ("prim", .string "Pair")]
    let e : Expr := .app "Pair" [.int "7"] ["%a"]
    (Body.decode Body.readValue text = .ok v ∧ Denotes v e) ∧
    Expr.ofValue v = .ok e ∧ Body.decode Body.expr text = .ok e ∧
    (∀ e', Denotes v e' → e = e') ∧ (∀ w ∈ v.nodes, Fitting w) ∧
    Body.WithinLimits Json.Number.largestRead text v.outline ∧ v.outline.Says v := by
  intro text v e
  have htext : text = v.text := by decide +kernel
  have hfree : v.NumberFree := .object (by
    simpa using ⟨.array (by simpa using .string _),
      .array (by simpa using .array (by simpa using .string _)), .string _⟩)
  have hlimits : Body.WithinLimits Json.Number.largestRead text v.outline := by
    rw [htext]
    exact Body.withinLimits_text _ hfree (by decide +kernel)
  have hread : Body.decode Body.readValue text = .ok v := by
    rw [htext]
    exact Body.decode_readValue_text hfree (by decide +kernel)
  obtain ⟨w, hsaid, hw, -⟩ := decode_eq_ok_iff_denotes.2.2.2.2 hlimits
  obtain rfl : w = v := Except.ok.inj (hw.symm.trans hread)
  have he : Denotes v e := ofValue?_eq_some_iff.mp (by decide +kernel)
  exact ⟨⟨hread, he⟩, decode_eq_ok_iff_denotes.1.mpr he,
    decode_eq_ok_iff_denotes.2.1.mpr ⟨v, hread, he⟩,
    fun e' h' => decode_eq_ok_iff_denotes.2.2.1 he h', (decode_eq_ok_iff_denotes.2.2.2.1 he).2,
    hlimits, hsaid⟩

end Micheline

end ContractQuery
