import ContractQuery.Micheline.Expr

/-!
# Well-formed expressions

Not every `Expr` is an expression of the chain: `Expr.invalid` stands where there is none, and the
text of an integer may be anything.

* `Expr.nodes` lists an expression and everything inside it, at any depth;
* `Expr.WellFormed` says of all these nodes that they are expressions, and that the integers among
  them are numerals (`IsInteger`). The lemmas after it say what that comes to for each kind of node.
-/

namespace ContractQuery

namespace Micheline

/-- The text is an optional `-` and one or more of the digits `0` to `9`. -/
def IsInteger (text : String) : Prop :=
  ∃ digits : List Char, digits ≠ [] ∧ (∀ c ∈ digits, '0' ≤ c ∧ c ≤ '9') ∧
    (text.toList = digits ∨ text.toList = '-' :: digits)

namespace Expr

mutual

/-- The expression and everything inside it. -/
def nodes : Expr → List Expr
  | .seq items => .seq items :: nodesOfAll items
  | .app name args annots => .app name args annots :: nodesOfAll args
  | e => [e]

/-- The nodes of all expressions of a list. -/
def nodesOfAll : List Expr → List Expr
  | [] => []
  | e :: rest => e.nodes ++ nodesOfAll rest

end

/-- Every node is an expression of the chain. -/
def WellFormed (e : Expr) : Prop :=
  ∀ n ∈ e.nodes, n ≠ .invalid ∧ ∀ text, n = .int text → IsInteger text

theorem mem_nodesOfAll {es : List Expr} {n : Expr} : n ∈ nodesOfAll es ↔ ∃ e ∈ es, n ∈ e.nodes := by
  induction es with
  | nil => simp [nodesOfAll]
  | cons e rest ih => simp [nodesOfAll, ih]

theorem forall_mem_nodesOfAll {es : List Expr} {P : Expr → Prop} :
    (∀ n ∈ nodesOfAll es, P n) ↔ ∀ e ∈ es, ∀ n ∈ e.nodes, P n := by
  constructor
  · intro h e he n hn
    exact h n (mem_nodesOfAll.mpr ⟨e, he, hn⟩)
  · intro h n hn
    obtain ⟨e, he, hn⟩ := mem_nodesOfAll.mp hn
    exact h e he n hn

theorem not_wellFormed_invalid : ¬ WellFormed .invalid := fun h =>
  (h .invalid (List.mem_singleton_self _)).1 rfl

@[simp] theorem wellFormed_int {text : String} : WellFormed (.int text) ↔ IsInteger text := by
  simp [WellFormed, nodes]

@[simp] theorem wellFormed_string (text : String) : WellFormed (.string text) := by
  simp [WellFormed, nodes]

@[simp] theorem wellFormed_bytes (hex : String) : WellFormed (.bytes hex) := by
  simp [WellFormed, nodes]

@[simp] theorem wellFormed_seq {items : List Expr} :
    WellFormed (.seq items) ↔ ∀ e ∈ items, e.WellFormed := by
  simp [WellFormed, nodes, forall_mem_nodesOfAll]

@[simp] theorem wellFormed_app {name : String} {args : List Expr} {annots : List String} :
    WellFormed (.app name args annots) ↔ ∀ e ∈ args, e.WellFormed := by
  simp [WellFormed, nodes, forall_mem_nodesOfAll]

theorem WellFormed.ne_invalid {e : Expr} (h : e.WellFormed) : e ≠ .invalid := by
  rintro rfl
  exact not_wellFormed_invalid h

theorem WellFormed.invalid_not_mem {e : Expr} (h : e.WellFormed) : invalid ∉ e.nodes :=
  fun hmem => (h invalid hmem).1 rfl

end Expr

/-! ## Numerals -/

theorem isDigits_iff {cs : List Char} :
    Decimal.isDigits cs = true ↔ cs ≠ [] ∧ ∀ c ∈ cs, '0' ≤ c ∧ c ≤ '9' := by
  simp [Decimal.isDigits, Char.isDigit, Char.le_def]

/-- **The reader's test for numerals is what it should be.** -/
theorem isNumeral_iff {text : String} : Decimal.isNumeral text.toList = true ↔ IsInteger text := by
  unfold Decimal.isNumeral IsInteger
  split
  · rename_i digits htext
    rw [isDigits_iff]
    constructor
    · rintro ⟨hne, hdigits⟩
      exact ⟨digits, hne, hdigits, .inr htext⟩
    · rintro ⟨ds, hne, hdigits, h | h⟩
      · rw [htext] at h
        subst h
        exact absurd (hdigits '-' List.mem_cons_self) (by decide)
      · rw [htext, List.cons.injEq] at h
        obtain ⟨-, rfl⟩ := h
        exact ⟨hne, hdigits⟩
  · rename_i hsign
    rw [isDigits_iff]
    constructor
    · rintro ⟨hne, hdigits⟩
      exact ⟨text.toList, hne, hdigits, .inl rfl⟩
    · rintro ⟨ds, hne, hdigits, h | h⟩
      · rw [h]
        exact ⟨hne, hdigits⟩
      · exact absurd h (hsign ds)

end Micheline

end ContractQuery
