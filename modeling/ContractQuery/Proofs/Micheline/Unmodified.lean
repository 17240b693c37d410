import ContractQuery.Proofs.Micheline.Acceptance

/-!
# An expression and the value it was read from

An expression that was read is written again in one way, whatever it was read from. This file says
what of the value it was read from comes back.

* `Rearranged v w`: `w` is `v` with the members of every object in some other order, and without
  empty members `args` and `annots`.
* `Straight v`: no array in `v` begins with a string, save for lists of annotations. These arrays are
  the forms in which an integer or an application can stand without an object of its own.
* **`Denotes.rearranged_iff`**: what was read comes back, up to a rearrangement, if and only if it is
  straight. From a straight value every array is a sequence (`Denotes.seq_iff`), and no object ever
  is.
-/

namespace ContractQuery

namespace Micheline

open Json (Value nesting)

/-! ## 1. The same value, arranged otherwise -/

mutual

/-- The second value is the first one with its members in another order, and without empty members
    `args` and `annots`. -/
inductive Rearranged : Value → Value → Prop
  | null : Rearranged .null .null
  | bool (b : Bool) : Rearranged (.bool b) (.bool b)
  | number (n : Json.Number) : Rearranged (.number n) (.number n)
  | string (text : String) : Rearranged (.string text) (.string text)
  | array {vs ws : List Value} (h : RearrangedItems vs ws) : Rearranged (.array vs) (.array ws)
  | object {ms ns : List (String × Value)} (h : RearrangedMembers ms ns) :
    Rearranged (.object ms) (.object ns)

/-- Items, one by one. -/
inductive RearrangedItems : List Value → List Value → Prop
  | nil : RearrangedItems [] []
  | cons {v w : Value} {vs ws : List Value} (h : Rearranged v w) (hs : RearrangedItems vs ws) :
    RearrangedItems (v :: vs) (w :: ws)

/-- Members, in any order. -/
inductive RearrangedMembers : List (String × Value) → List (String × Value) → Prop
  | nil : RearrangedMembers [] []
  | cons (name : String) {v w : Value} {ms ns : List (String × Value)} (h : Rearranged v w)
    (hs : RearrangedMembers ms ns) : RearrangedMembers ((name, v) :: ms) ((name, w) :: ns)
  | drop {name : String} {ms ns : List (String × Value)} (hname : name = "args" ∨ name = "annots")
    (hs : RearrangedMembers ms ns) : RearrangedMembers ((name, .array []) :: ms) ns
  | perm {ms ms' ns : List (String × Value)} (hperm : ms.Perm ms') (h : RearrangedMembers ms' ns) :
    RearrangedMembers ms ns

end

/-- No array in the value begins with a string, save for the lists of annotations. -/
inductive Straight : Value → Prop
  | null : Straight .null
  | bool (b : Bool) : Straight (.bool b)
  | number (n : Json.Number) : Straight (.number n)
  | string (text : String) : Straight (.string text)
  | array {items : List Value} (hfirst : ∀ text rest, items ≠ .string text :: rest)
    (h : ∀ v ∈ items, Straight v) : Straight (.array items)
  | object {members : List (String × Value)} (h : ∀ m ∈ members, m.1 ≠ "annots" → Straight m.2) :
    Straight (.object members)

/-- What is there after a rearrangement was there before. -/
theorem RearrangedMembers.exists_of_mem : ∀ {ms ns : List (String × Value)} {name : String}
    {w : Value}, RearrangedMembers ms ns → (name, w) ∈ ns → ∃ v, (name, v) ∈ ms ∧ Rearranged v w
  | _, _, _, _, .cons _ h hs, hw => by
    rcases List.mem_cons.mp hw with heq | hw
    · obtain ⟨rfl, rfl⟩ := Prod.mk.inj heq
      exact ⟨_, List.mem_cons_self, h⟩
    · obtain ⟨v, hv, hr⟩ := hs.exists_of_mem hw
      exact ⟨v, List.mem_cons_of_mem _ hv, hr⟩
  | _, _, _, _, .drop _ hs, hw => by
    obtain ⟨v, hv, hr⟩ := hs.exists_of_mem hw
    exact ⟨v, List.mem_cons_of_mem _ hv, hr⟩
  | _, _, _, _, .perm hperm hs, hw => by
    obtain ⟨v, hv, hr⟩ := hs.exists_of_mem hw
    exact ⟨v, hperm.mem_iff.mpr hv, hr⟩

/-! ## 2. What an application is written as -/

/-- The member with the arguments, if there are any. -/
def argsMembers : List Expr → List (String × Value)
  | [] => []
  | arg :: args => [("args", .array (toValues (arg :: args)))]

/-- The member with the annotations, if there are any. -/
def annotsMembers : List String → List (String × Value)
  | [] => []
  | annot :: annots => [("annots", .array (stringValues (annot :: annots)))]

theorem Expr.toValue_app (name : String) (args : List Expr) (annots : List String) :
    (Expr.app name args annots).toValue =
      .object (("prim", .string name) :: (argsMembers args ++ annotsMembers annots)) := by
  cases args <;> cases annots <;> rfl

theorem RearrangedItems.strings : ∀ texts : List String,
    RearrangedItems (stringValues texts) (stringValues texts)
  | [] => .nil
  | text :: rest => .cons (.string text) (strings rest)

theorem DenotesAnnots.rearranged {part : List (String × Value)} {annots : List String}
    (h : DenotesAnnots part annots) : RearrangedMembers part (annotsMembers annots) := by
  cases h with
  | absent => exact .nil
  | present =>
    cases annots with
    | nil => exact .drop (.inr rfl) .nil
    | cons annot annots => exact .cons "annots" (.array (.strings _)) .nil

theorem rearranged_leaf (name text : String) :
    Rearranged (.object [(name, .string text)]) (.object [(name, .string text)]) :=
  .object (.cons name (.string text) .nil)

/-! ## 3. What is straight comes back -/

mutual

/-- **A straight value comes back rearranged.** -/
theorem Denotes.rearranged : ∀ {v : Value} {e : Expr}, Denotes v e → Straight v →
    Rearranged v e.toValue
  | _, _, .int _, _ => rearranged_leaf "int" _
  | _, _, .string _, _ => rearranged_leaf "string" _
  | _, _, .bytes _, _ => rearranged_leaf "bytes" _
  | _, _, .seq h, .array _ hitems => .array (h.rearranged hitems)
  | _, _, @Denotes.app _ _ _ name args annots hargs hannots hmembers, .object hall => by
    rw [Expr.toValue_app]
    refine .object (.perm hmembers (.cons "prim" (.string name) ?_))
    refine hargs.rearranged (fun m hm => ?_) hannots.rearranged
    exact hall m (hmembers.mem_iff.mpr (List.mem_cons_of_mem _ (List.mem_append_left _ hm)))
  | _, _, .intArray _, .array hfirst _ => absurd rfl (hfirst _ _)
  | _, _, .appArray _, .array hfirst _ => absurd rfl (hfirst _ _)
  | _, _, .appArrayAnnots _ _, .array hfirst _ => absurd rfl (hfirst _ _)

theorem DenotesAll.rearranged : ∀ {vs : List Value} {es : List Expr}, DenotesAll vs es →
    (∀ v ∈ vs, Straight v) → RearrangedItems vs (toValues es)
  | _, _, .nil, _ => .nil
  | _, _, .cons h hs, hall =>
    .cons (h.rearranged (hall _ List.mem_cons_self))
      (hs.rearranged fun v hv => hall v (List.mem_cons_of_mem _ hv))

/-- The member with the arguments, before others. -/
theorem DenotesArgs.rearranged : ∀ {part : List (String × Value)} {es : List Expr}
    {ms ns : List (String × Value)}, DenotesArgs part es →
    (∀ m ∈ part, m.1 ≠ "annots" → Straight m.2) → RearrangedMembers ms ns →
    RearrangedMembers (part ++ ms) (argsMembers es ++ ns)
  | _, _, _, _, .absent, _, hrest => hrest
  | _, [], _, _, .present .nil, _, hrest => .drop (.inl rfl) hrest
  | _, _ :: _, _, _, .present h, hall, hrest => by
    have hargs := hall _ (List.mem_singleton_self _) (by simp)
    cases hargs with
    | array _ hitems => exact .cons "args" (.array (h.rearranged hitems)) hrest

end

/-! ## 4. What comes back was straight -/

mutual

/-- **A value that comes back rearranged is straight.** -/
theorem Denotes.straight : ∀ {v : Value} {e : Expr}, Denotes v e → Rearranged v e.toValue →
    Straight v
  | _, _, .int _, _ => .object (by simpa using .string _)
  | _, _, .string _, _ => .object (by simpa using .string _)
  | _, _, .bytes _, _ => .object (by simpa using .string _)
  | _, _, .seq h, .array hitems => .array h.ne_string_cons (h.straight hitems)
  | _, _, @Denotes.app members argsPart annotsPart name args annots hargs hannots hmembers, hr => by
    rw [Expr.toValue_app] at hr
    cases hr with
    | object hms =>
      -- the arguments that are written can only come from the member that holds them
      have hwritten : ∀ w, ("args", w) ∈ argsMembers args →
          ∃ v, ("args", v) ∈ argsPart ∧ Rearranged v w := by
        intro w hw
        obtain ⟨v, hv, hr⟩ := hms.exists_of_mem
          (List.mem_cons_of_mem _ (List.mem_append_left _ hw))
        refine ⟨v, ?_, hr⟩
        have hv' := hmembers.mem_iff.mp hv
        cases hannots <;> simpa using hv'
      have hinside := hargs.straight hwritten
      refine .object fun m hm hname => ?_
      rcases List.mem_cons.mp (hmembers.mem_iff.mp hm) with rfl | hm
      · exact .string name
      rcases List.mem_append.mp hm with hm | hm
      · exact hinside m hm
      · cases hannots with
        | absent => cases hm
        | present =>
          obtain rfl := List.mem_singleton.mp hm
          exact absurd rfl hname
  | _, _, .intArray _, hr => nomatch hr
  | _, _, @Denotes.appArray name _ args _, hr => by
    rw [Expr.toValue_app] at hr
    cases hr
  | _, _, @Denotes.appArrayAnnots name _ args annots _, hr => by
    rw [Expr.toValue_app] at hr
    cases hr

theorem DenotesAll.straight : ∀ {vs : List Value} {es : List Expr}, DenotesAll vs es →
    RearrangedItems vs (toValues es) → ∀ v ∈ vs, Straight v
  | _, _, .nil, _ => by simp
  | _, _, .cons h hs, .cons hr hrs => List.forall_mem_cons.mpr ⟨h.straight hr, hs.straight hrs⟩

theorem DenotesArgs.straight : ∀ {part : List (String × Value)} {es : List Expr},
    DenotesArgs part es →
    (∀ w, ("args", w) ∈ argsMembers es → ∃ v, ("args", v) ∈ part ∧ Rearranged v w) →
    ∀ m ∈ part, Straight m.2
  | _, _, .absent, _ => by simp
  | _, [], .present .nil, _ => by simpa using .array (by simp) (by simp)
  | _, _ :: _, .present h, hwritten => by
    obtain ⟨v, hv, hr⟩ := hwritten _ (List.mem_singleton_self _)
    have hv' := List.mem_singleton.mp hv
    cases hv'
    cases hr with
    | array hitems => simpa using .array h.ne_string_cons (h.straight hitems)

end

/-- **What was read comes back if and only if it is straight.** -/
theorem Denotes.rearranged_iff {v : Value} {e : Expr} (h : Denotes v e) :
    Rearranged v e.toValue ↔ Straight v := ⟨h.straight, h.rearranged⟩

/-! ## 5. Sequences and texts -/

/-- An array is read as a sequence if it does not begin with a string, and only then. -/
theorem Denotes.seq_iff {items : List Value} {e : Expr} (h : Denotes (.array items) e) :
    (∃ es, e = .seq es) ↔ ∀ text rest, items ≠ .string text :: rest := by
  cases h with
  | seq h => exact ⟨fun _ => h.ne_string_cons, fun _ => ⟨_, rfl⟩⟩
  | intArray => exact ⟨nofun, fun hfirst => absurd rfl (hfirst _ _)⟩
  | appArray => exact ⟨nofun, fun hfirst => absurd rfl (hfirst _ _)⟩
  | appArrayAnnots => exact ⟨nofun, fun hfirst => absurd rfl (hfirst _ _)⟩

theorem Denotes.ne_seq_of_object {members : List (String × Value)} {e : Expr}
    (h : Denotes (.object members) e) (es : List Expr) : e ≠ .seq es := by
  cases h <;> nofun

/-- The text of an expression says its value, if there is room for it. -/
theorem readValue_encode {e : Expr} (h : nesting e.encode ≤ Body.deepest) :
    Body.decode Body.readValue e.encode = .ok e.toValue := by
  rw [nesting_encode] at h
  exact Body.decode_readValue_text e.numberFree_toValue h

/-- What a text said and what is written of the expression that was decoded from it. -/
theorem values_of_decode {text : String} {e : Expr} (h : Body.decode Body.expr text = .ok e) :
    ∃ v, Body.decode Body.readValue text = .ok v ∧ Denotes v e ∧
      Body.decode Body.readValue e.encode = .ok e.toValue := by
  obtain ⟨v, hv, he⟩ := decode_expr_eq_ok_iff.mp h
  obtain ⟨-, hnesting, -⟩ := decode_stable h
  obtain ⟨-, -, -, hroom⟩ := denotes_of_decode h
  exact ⟨v, hv, he, readValue_encode (Nat.le_trans hnesting hroom)⟩

end Micheline

end ContractQuery
