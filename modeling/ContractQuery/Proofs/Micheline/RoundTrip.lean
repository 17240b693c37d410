import ContractQuery.Proofs.Body.Reading
import ContractQuery.Proofs.Micheline.Grammar

/-!
# Written expressions are read back

An expression is written as JSON whatever it is; read back it is itself, or nothing.

* `ofValue?_toValue_eq_some_iff`: the value of an expression stands for that expression if it is well
  formed, and for no expression if it is not. No sequence is taken for an integer, or for an
  application written as an array: its items are written as arrays, objects or `null`, never as
  strings;
* **`decode_encode_eq_ok_iff`**: the same for texts, where there must be room for the arrays and
  objects besides.
-/

namespace ContractQuery

namespace Micheline

open Json (Value itemsDepth membersDepth membersDepth_le_iff nesting)

/-! ## 1. What is written -/

theorem strings?_stringValues (texts : List String) : strings? (stringValues texts) = some texts := by
  induction texts with
  | nil => rfl
  | cons text rest ih =>
    show (strings? (stringValues rest)).map (text :: ·) = _
    rw [ih]
    rfl

theorem numberFree_stringValues {texts : List String} : ∀ v ∈ stringValues texts, v.NumberFree := by
  intro v hv
  obtain ⟨text, -, rfl⟩ := List.mem_map.mp hv
  exact .string text

theorem depth_stringValues (texts : List String) : itemsDepth (stringValues texts) = 0 := by
  induction texts with
  | nil => rfl
  | cons text rest ih =>
    show max 0 (itemsDepth (stringValues rest)) = 0
    rw [ih]
    rfl

mutual

/-- Expressions are written without numbers. -/
theorem Expr.numberFree_toValue : ∀ e : Expr, e.toValue.NumberFree
  | .invalid => .null
  | .int text => .object (by simpa using .string text)
  | .string text => .object (by simpa using .string text)
  | .bytes hex => .object (by simpa using .string hex)
  | .seq items => .array (numberFree_toValues items)
  | .app name [] [] => .object (by simpa using .string name)
  | .app name (arg :: args) [] => by
    have hargs := numberFree_toValues (arg :: args)
    exact .object (by simpa using ⟨.string name, .array hargs⟩)
  | .app name [] (annot :: annots) =>
    .object (by simpa using ⟨.string name, .array numberFree_stringValues⟩)
  | .app name (arg :: args) (annot :: annots) => by
    have hargs := numberFree_toValues (arg :: args)
    exact .object (by simpa using ⟨.string name, .array hargs, .array numberFree_stringValues⟩)

theorem numberFree_toValues : ∀ es : List Expr, ∀ v ∈ toValues es, v.NumberFree
  | [] => by simp [toValues]
  | e :: rest => by
    intro v hv
    rcases List.mem_cons.mp hv with rfl | hv
    · exact e.numberFree_toValue
    · exact numberFree_toValues rest v hv

end

/-! ## 2. What it is read as -/

/-- No expression is written as a string. -/
theorem Expr.toValue_ne_string (e : Expr) (text : String) : e.toValue ≠ .string text := by
  intro h
  cases e with
  | app name args annots => cases args <;> cases annots <;> cases h
  | _ => cases h

/-- An array that does not begin with a string is read as a sequence. -/
theorem ofValue?_array {items : List Value} (h : ∀ text rest, items ≠ .string text :: rest) :
    ofValue? (.array items) = (ofValues? items).map .seq := by
  rw [ofValue?]
  · intro text hitems
    exact h text [] hitems
  · intro name args hitems
    exact h name _ hitems
  · intro name args annots hitems
    exact h name _ hitems

theorem toValues_ne_string_cons (es : List Expr) (text : String) (rest : List Value) :
    toValues es ≠ .string text :: rest := by
  cases es with
  | nil => simp [toValues]
  | cons e es =>
    rw [toValues]
    exact fun h => e.toValue_ne_string text (List.cons.inj h).1

theorem ofValue?_name (name : String) :
    ofValue? (.object [("prim", .string name)]) = some (.app name [] []) := by
  simp [ofValue?, appMembers?, AppMembers.toExpr?]

theorem ofValue?_name_args (name : String) (args : List Value) :
    ofValue? (.object [("prim", .string name), ("args", .array args)]) =
      (ofValues? args).map fun es => .app name es [] := by
  cases h : ofValues? args <;> simp [ofValue?, appMembers?, AppMembers.toExpr?, h]

theorem ofValue?_name_annots (name : String) (annots : List String) :
    ofValue? (.object [("prim", .string name), ("annots", .array (stringValues annots))]) =
      some (.app name [] annots) := by
  simp [ofValue?, appMembers?, AppMembers.toExpr?, strings?_stringValues]

theorem ofValue?_name_args_annots (name : String) (args : List Value) (annots : List String) :
    ofValue? (.object [("prim", .string name), ("args", .array args),
      ("annots", .array (stringValues annots))]) =
      (ofValues? args).map fun es => .app name es annots := by
  cases h : ofValues? args <;>
    simp [ofValue?, appMembers?, AppMembers.toExpr?, strings?_stringValues, h]

/-- What is known of a result is known of what is made of it. -/
theorem map_eq_some_iff_of {α β : Type} {x : Option α} {P : Prop} {a : α}
    (h : ∀ {a'}, x = some a' ↔ P ∧ a' = a) {f : α → β} {b : β} :
    x.map f = some b ↔ P ∧ b = f a := by
  rw [Option.map_eq_some_iff]
  constructor
  · rintro ⟨a', ha', rfl⟩
    obtain ⟨hP, rfl⟩ := h.mp ha'
    exact ⟨hP, rfl⟩
  · rintro ⟨hP, rfl⟩
    exact ⟨a, h.mpr ⟨hP, rfl⟩, rfl⟩

mutual

/-- **What the value of an expression stands for.** -/
theorem ofValue?_toValue_eq_some_iff : ∀ {e e' : Expr},
    ofValue? e.toValue = some e' ↔ e.WellFormed ∧ e' = e
  | .invalid, e' => by
    have hnone : ofValue? Expr.invalid.toValue = none := rfl
    simp [hnone, Expr.not_wellFormed_invalid]
  | .int text, e' => int?_eq_some_iff.trans (by simp)
  | .string text, e' => by simp [Expr.toValue, ofValue?, eq_comm]
  | .bytes hex, e' => by simp [Expr.toValue, ofValue?, eq_comm]
  | .seq items, e' => by
    -- no item is written as a string, which is what the other forms of an array begin with
    rw [Expr.toValue, ofValue?_array (toValues_ne_string_cons items), Expr.wellFormed_seq]
    exact map_eq_some_iff_of ofValues?_toValues_eq_some_iff
  | .app name [] [], e' => by
    rw [Expr.toValue, ofValue?_name]
    simp [eq_comm]
  | .app name (arg :: args) [], e' => by
    rw [Expr.toValue, ofValue?_name_args, ← toValues, Expr.wellFormed_app]
    exact map_eq_some_iff_of ofValues?_toValues_eq_some_iff
  | .app name [] (annot :: annots), e' => by
    rw [Expr.toValue, ofValue?_name_annots]
    simp [eq_comm]
  | .app name (arg :: args) (annot :: annots), e' => by
    rw [Expr.toValue, ofValue?_name_args_annots, ← toValues, Expr.wellFormed_app]
    exact map_eq_some_iff_of ofValues?_toValues_eq_some_iff

theorem ofValues?_toValues_eq_some_iff : ∀ {es es' : List Expr},
    ofValues? (toValues es) = some es' ↔ (∀ e ∈ es, e.WellFormed) ∧ es' = es
  | [], es' => by simp [toValues, ofValues?, eq_comm]
  | e :: rest, es' => by
    rw [toValues, ofValues?_cons_eq_some_iff, List.forall_mem_cons]
    constructor
    · rintro ⟨e', rest', he, hrest, rfl⟩
      obtain ⟨hwf, rfl⟩ := ofValue?_toValue_eq_some_iff.mp he
      obtain ⟨hwfs, rfl⟩ := ofValues?_toValues_eq_some_iff.mp hrest
      exact ⟨⟨hwf, hwfs⟩, rfl⟩
    · rintro ⟨⟨hwf, hwfs⟩, rfl⟩
      exact ⟨e, rest, ofValue?_toValue_eq_some_iff.mpr ⟨hwf, rfl⟩,
        ofValues?_toValues_eq_some_iff.mpr ⟨hwfs, rfl⟩, rfl⟩

end

/-! ## 3. Texts -/

/-- The text of an expression is as deep as its value. -/
theorem nesting_encode (e : Expr) : nesting e.encode = e.toValue.depth :=
  Body.nesting_text e.numberFree_toValue

/-- **What the text of an expression is decoded as.** -/
theorem decode_encode_eq_ok_iff {e e' : Expr} :
    Body.decode Body.expr e.encode = .ok e' ↔
      (e.WellFormed ∧ nesting e.encode ≤ Body.deepest) ∧ e' = e := by
  have hfree := e.numberFree_toValue
  rw [nesting_encode, Expr.encode, Body.decode_text Body.expr hfree, Body.expr_eq_ok_iff]
  simp only [Body.readValue_outline _ _ hfree, Body.ifRoom]
  constructor
  · rintro ⟨v, hv, he⟩
    split at hv
    · rename_i hroom
      cases hv
      obtain ⟨hwf, rfl⟩ := ofValue?_toValue_eq_some_iff.mp he
      exact ⟨⟨hwf, hroom⟩, rfl⟩
    · cases hv
  · rintro ⟨⟨hwf, hroom⟩, rfl⟩
    exact ⟨_, if_pos hroom, ofValue?_toValue_eq_some_iff.mpr ⟨hwf, rfl⟩⟩

/-- **An expression is read back from its text if and only if it is well formed and the text nests
    at most 127 arrays and objects; else its text is refused, and never read as another.** -/
theorem decode_encode (e : Expr) :
    (Body.decode Body.expr e.encode = .ok e ↔ e.WellFormed ∧ nesting e.encode ≤ 127) ∧
    ((∃ failure, Body.decode Body.expr e.encode = .error failure) ↔
      ¬ (e.WellFormed ∧ nesting e.encode ≤ 127)) := by
  have hiff : ∀ {e'}, Body.decode Body.expr e.encode = .ok e' ↔
      (e.WellFormed ∧ nesting e.encode ≤ 127) ∧ e' = e := decode_encode_eq_ok_iff
  have hok : Body.decode Body.expr e.encode = .ok e ↔ e.WellFormed ∧ nesting e.encode ≤ 127 :=
    hiff.trans (and_iff_left rfl)
  refine ⟨hok, ?_⟩
  constructor
  · rintro ⟨failure, hfail⟩ hgood
    rw [hok.mpr hgood] at hfail
    cases hfail
  · intro hbad
    cases h : Body.decode Body.expr e.encode with
    | ok e' => exact absurd (hiff.mp h).1 hbad
    | error failure => exact ⟨failure, rfl⟩

/-! ## 4. Texts that were read -/

mutual

/-- Whatever a value stands for is well formed. -/
theorem Denotes.wellFormed : ∀ {v : Value} {e : Expr}, Denotes v e → e.WellFormed
  | _, _, .int h => Expr.wellFormed_int.mpr h
  | _, _, .string text => Expr.wellFormed_string text
  | _, _, .bytes hex => Expr.wellFormed_bytes hex
  | _, _, .seq h => Expr.wellFormed_seq.mpr h.wellFormed
  | _, _, .app hargs _ _ => Expr.wellFormed_app.mpr hargs.wellFormed
  | _, _, .intArray h => Expr.wellFormed_int.mpr h
  | _, _, .appArray h => Expr.wellFormed_app.mpr h.wellFormed
  | _, _, .appArrayAnnots _ h => Expr.wellFormed_app.mpr h.wellFormed

theorem DenotesAll.wellFormed : ∀ {vs : List Value} {es : List Expr}, DenotesAll vs es →
    ∀ e ∈ es, e.WellFormed
  | _, _, .nil => by simp
  | _, _, .cons h hs => List.forall_mem_cons.mpr ⟨h.wellFormed, hs.wellFormed⟩

theorem DenotesArgs.wellFormed : ∀ {part : List (String × Value)} {es : List Expr},
    DenotesArgs part es → ∀ e ∈ es, e.WellFormed
  | _, _, .absent => by simp
  | _, _, .present h => h.wellFormed

end

/-- The depth of an application, from that of its arguments; what is left out when it is empty does
    not count. -/
theorem depth_toValue_app_le {name : String} {args : List Expr} {annots : List String} {n : Nat}
    (hargs : args ≠ [] → itemsDepth (toValues args) < n) (hannots : annots ≠ [] → 0 < n) :
    (Expr.app name args annots).toValue.depth ≤ n + 1 := by
  cases args with
  | nil =>
    cases annots with
    | nil => simp [Expr.toValue, Value.depth, membersDepth]
    | cons annot annots =>
      have hn := hannots (by simp)
      simp only [Expr.toValue, Value.depth, membersDepth, depth_stringValues]
      omega
  | cons arg args =>
    have hn := hargs (by simp)
    rw [toValues] at hn
    cases annots with
    | nil =>
      simp only [Expr.toValue, Value.depth, membersDepth]
      omega
    | cons annot annots =>
      simp only [Expr.toValue, Value.depth, membersDepth, depth_stringValues]
      omega

theorem le_membersDepth {members : List (String × Value)} {name : String} {v : Value}
    (h : (name, v) ∈ members) : v.depth ≤ membersDepth members :=
  membersDepth_le_iff.mp (Nat.le_refl _) (name, v) h

mutual

/-- **An expression is written no deeper than what it was read from.** -/
theorem Denotes.depth_le : ∀ {v : Value} {e : Expr}, Denotes v e → e.toValue.depth ≤ v.depth
  | _, _, .int _ => Nat.le_refl _
  | _, _, .string _ => Nat.le_refl _
  | _, _, .bytes _ => Nat.le_refl _
  | _, _, .seq h => Nat.succ_le_succ h.depth_le
  | _, _, @Denotes.app members argsPart _ _ _ _ hargs hannots hmembers => by
    -- the arguments lie two levels below: in the object and in an array of their own
    have hpart : ∀ m ∈ argsPart, m.2.depth ≤ membersDepth members := fun m hm =>
      le_membersDepth (hmembers.mem_iff.mpr
        (List.mem_cons_of_mem _ (List.mem_append_left _ hm)))
    refine depth_toValue_app_le (fun hne => hargs.depth_lt hne hpart) fun hne => ?_
    cases hannots with
    | absent => exact absurd rfl hne
    | present annots =>
      have hle := le_membersDepth (hmembers.mem_iff.mpr
        (List.mem_cons_of_mem _ (List.mem_append_right _ (List.mem_singleton_self _))))
      exact Nat.lt_of_lt_of_le (Nat.succ_pos _) hle
  | _, _, .intArray _ => Nat.le_refl _
  | _, _, .appArray h => by
    have hle := h.depth_le
    refine depth_toValue_app_le (fun _ => ?_) fun hne => absurd rfl hne
    simp only [itemsDepth, Value.depth]
    omega
  | _, _, .appArrayAnnots _ h => by
    have hle := h.depth_le
    refine depth_toValue_app_le (fun _ => ?_) fun _ => ?_
    · simp only [itemsDepth, Value.depth]
      omega
    · simp only [itemsDepth, Value.depth]
      omega

theorem DenotesAll.depth_le : ∀ {vs : List Value} {es : List Expr}, DenotesAll vs es →
    itemsDepth (toValues es) ≤ itemsDepth vs
  | _, _, .nil => Nat.le_refl _
  | _, _, .cons h hs => by
    have hle := h.depth_le
    have hles := hs.depth_le
    simp only [toValues, itemsDepth]
    omega

theorem DenotesArgs.depth_lt : ∀ {part : List (String × Value)} {es : List Expr} {n : Nat},
    DenotesArgs part es → es ≠ [] → (∀ m ∈ part, m.2.depth ≤ n) → itemsDepth (toValues es) < n
  | _, _, _, .absent, hne, _ => absurd rfl hne
  | _, _, n, .present h, _, hpart => by
    have hle := h.depth_le
    have hn := hpart _ (List.mem_singleton_self _)
    simp only [Value.depth] at hn
    omega

end

/-- What is known of an expression that was decoded: the text says a value that stands for it, and
    this value is as deep as the text. -/
theorem denotes_of_decode {text : String} {e : Expr} (h : Body.decode Body.expr text = .ok e) :
    ∃ v, Denotes v e ∧ v.depth = nesting text ∧ nesting text ≤ Body.deepest := by
  obtain ⟨v, hv, he⟩ := Body.expr_eq_ok_iff.mp (Body.decode_eq_ok_iff.mp h).1
  obtain ⟨hdepth, hroom⟩ := Body.readValue_depth hv
  exact ⟨v, denotes_of_ofValue? he, hdepth, hroom⟩

/-- **A decoded expression is well formed, is written no deeper than the text it came from, and is
    read back.** -/
theorem decode_stable {text : String} {e : Expr} (h : Body.decode Body.expr text = .ok e) :
    e.WellFormed ∧ nesting e.encode ≤ nesting text ∧
      Body.decode Body.expr e.encode = .ok e := by
  obtain ⟨v, hv, hdepth, hroom⟩ := denotes_of_decode h
  have hwf : e.WellFormed := hv.wellFormed
  have hnest : nesting e.encode ≤ nesting text := by
    rw [nesting_encode, ← hdepth]
    exact hv.depth_le
  exact ⟨hwf, hnest, decode_encode_eq_ok_iff.mpr ⟨⟨hwf, Nat.le_trans hnest hroom⟩, rfl⟩⟩

end Micheline

end ContractQuery
