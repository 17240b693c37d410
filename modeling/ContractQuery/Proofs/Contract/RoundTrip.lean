import ContractQuery.Proofs.Contract.Script

/-!
# Written scripts are read back

A script is written whatever its parts are. Its text is read as the same script if the parts are
expressions of the chain, the views are sections of that name and nothing more, and the text is not
too deep.

* `readable_section_iff`: a section takes two levels more than the argument it holds, one for the
  application and one for the list of its arguments.
* `Script.depth_toValue_le_iff`: the sections lie two levels below the script, its storage one.
* **`decode_script_eq_ok_iff`**: which scripts are read back, and how deep their parts may be.
-/

namespace ContractQuery

namespace Contract

open Json (Value itemsDepth membersDepth nesting)
open Micheline (Expr Readable)

/-! ## 1. Depth -/

/-- The levels of a section with one argument. -/
theorem depth_section (name : String) (e : Expr) :
    (Expr.apply name [e]).toValue.depth = e.toValue.depth + 2 := by
  rw [Expr.apply, Micheline.depth_toValue_app]
  simp [Micheline.toValues, itemsDepth]

theorem readable_section_iff {room : Nat} {name : String} {e : Expr} :
    Readable room (.apply name [e]) ↔ e.WellFormed ∧ e.toValue.depth + 2 ≤ room := by
  unfold Readable
  rw [depth_section, Expr.apply, Expr.wellFormed_app, List.forall_mem_singleton]

/-- The sections lie in the list of the code and in the script, the storage only in the script. -/
theorem Script.depth_toValue_le_iff {s : Script} {n : Nat} : s.toValue.depth ≤ n + 2 ↔
    (∀ e ∈ s.code.toSections, e.toValue.depth ≤ n) ∧ s.storage.toValue.depth ≤ n + 1 := by
  rw [← Micheline.itemsDepth_toValues_le_iff]
  simp only [Script.toValue, Code.toValue, Value.depth, membersDepth]
  omega

/-- What holds of the sections holds of those with an argument and of the views. -/
theorem Code.forall_toSections_iff {code : Code} {P : Expr → Prop} :
    (∀ e ∈ code.toSections, P e) ↔
      (∀ m ∈ code.arguments, P (.apply m.1 [m.2])) ∧ ∀ v ∈ code.views, P v := by
  rw [Code.toSections_eq, List.forall_mem_append, List.forall_mem_map]

/-- **How deep the parts of a script may be, that its text may be no deeper than that.** -/
theorem nesting_script_le_iff {s : Script} {n : Nat} : nesting s.toValue.text ≤ n + 2 ↔
    nesting s.storage.encode + 1 ≤ n + 2 ∧
    (∀ m ∈ s.code.arguments, nesting m.2.encode + 4 ≤ n + 2) ∧
    ∀ v ∈ s.code.views, nesting v.encode + 2 ≤ n + 2 := by
  rw [Body.nesting_text (Body.numberFree_script s), Script.depth_toValue_le_iff,
    Code.forall_toSections_iff]
  simp only [depth_section, Micheline.nesting_encode]
  constructor
  · intro ⟨⟨harguments, hviews⟩, hstorage⟩
    refine ⟨by omega, fun m hm => ?_, fun v hv => ?_⟩
    · have hm := harguments m hm
      omega
    · have hv := hviews v hv
      omega
  · intro ⟨hstorage, harguments, hviews⟩
    refine ⟨⟨fun m hm => ?_, fun v hv => ?_⟩, by omega⟩
    · have hm := harguments m hm
      omega
    · have hv := hviews v hv
      omega

/-! ## 2. Reading back -/

/-- A view with nothing but its arguments, and these are expressions of the chain. -/
theorem readable_view_iff {room : Nat} {v : Expr} :
    (∃ args, v = .apply "view" args) ∧ Readable room v ↔
      (∃ args, v = .app "view" args [] ∧ ∀ e ∈ args, e.WellFormed) ∧ v.toValue.depth ≤ room := by
  unfold Readable
  constructor
  · intro h
    obtain ⟨⟨args, hv⟩, hwf, hdepth⟩ := h
    rw [hv, Expr.apply, Expr.wellFormed_app] at hwf
    exact ⟨⟨args, hv, hwf⟩, hdepth⟩
  · intro h
    obtain ⟨⟨args, hv, hwf⟩, hdepth⟩ := h
    refine ⟨⟨args, hv⟩, ?_, hdepth⟩
    rw [hv, Expr.wellFormed_app]
    exact hwf

/-- What it takes for a script to be read back, where its value is looked at and not its text. -/
theorem decode_text_eq_ok_iff {s : Script} : Body.decode Body.script s.toValue.text = .ok s ↔
    (s.storage.WellFormed ∧ ∀ m ∈ s.code.arguments, m.2.WellFormed) ∧
      (∀ v ∈ s.code.views, ∃ args, v = .app "view" args [] ∧ ∀ e ∈ args, e.WellFormed) ∧
      s.toValue.depth ≤ Body.deepest := by
  have hdeepest : Body.deepest = 125 + 2 := rfl
  rw [Body.decode_text _ (Body.numberFree_script s), hdeepest, Body.script_outline_eq_ok_iff,
    Script.depth_toValue_le_iff, Code.forall_toSections_iff, Code.forall_toSections_iff,
    Code.ofSections_toSections_iff]
  simp only [readable_section_iff, depth_section]
  constructor
  · intro ⟨⟨harguments, hviews⟩, ⟨hstorage, hdepth⟩, hplain, _⟩
    have hview := fun v hv => readable_view_iff.mp ⟨hplain v hv, hviews v hv⟩
    exact ⟨⟨hstorage, fun m hm => (harguments m hm).1⟩, fun v hv => (hview v hv).1,
      ⟨fun m hm => (harguments m hm).2, fun v hv => (hview v hv).2⟩, hdepth⟩
  · intro ⟨⟨hstorage, harguments⟩, hplain, ⟨hsections, hviews⟩, hdepth⟩
    have hview := fun v hv => readable_view_iff.mpr ⟨hplain v hv, hviews v hv⟩
    exact ⟨⟨fun m hm => ⟨harguments m hm, hsections m hm⟩, fun v hv => (hview v hv).2⟩,
      ⟨hstorage, hdepth⟩, fun v hv => (hview v hv).1, trivial⟩

theorem Code.forall_arguments_iff {code : Code} {P : Expr → Prop} :
    (∀ m ∈ code.arguments, P m.2) ↔ ∀ e ∈ [code.paramType, code.storageType, code.body], P e := by
  simp [Code.arguments]

/-- **A script is read back from its text if and only if its storage and what its sections say are
    well formed, its views are applications named `view` without annotations and with well-formed
    arguments, and the text nests at most 127 arrays and objects. Of these the script itself takes
    one around its storage, two around a view with the list of the code, and four around what a
    section says with the section and the list of its arguments.** -/
theorem decode_script_eq_ok_iff (s : Script) :
    (Body.decode Body.script s.toValue.text = .ok s ↔
      (∀ e ∈ [s.storage, s.code.paramType, s.code.storageType, s.code.body], e.WellFormed) ∧
      (∀ v ∈ s.code.views, ∃ args, v = .app "view" args [] ∧ ∀ e ∈ args, e.WellFormed) ∧
      nesting s.toValue.text ≤ 127) ∧
    (nesting s.toValue.text ≤ 127 ↔ nesting s.storage.encode + 1 ≤ 127 ∧
      (∀ e ∈ [s.code.paramType, s.code.storageType, s.code.body], nesting e.encode + 4 ≤ 127) ∧
      ∀ v ∈ s.code.views, nesting v.encode + 2 ≤ 127) := by
  constructor
  · rw [decode_text_eq_ok_iff, List.forall_mem_cons, ← Code.forall_arguments_iff,
      Body.nesting_text (Body.numberFree_script s)]
    exact Iff.rfl
  · rw [← Code.forall_arguments_iff]
    exact nesting_script_le_iff (n := 125)

end Contract

end ContractQuery
