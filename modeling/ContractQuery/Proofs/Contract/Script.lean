import ContractQuery.Proofs.Body.Records
import ContractQuery.Proofs.Contract.Sections
import ContractQuery.Proofs.Micheline.Readable

/-!
# Scripts that were read

The code of a script is a list of expressions, each of which is well formed when it was read, but
`Expr.invalid` stands in the code for what the list does not have.

* `Body.scriptSections` reads a script without splitting its code. A script that was read was split
  from these sections (`sections_of_script`).
* `Filled`: of each of the three sections with one argument there is one, and the last one has the
  argument.
* A script that was decoded is made of the sections of its text (`madeOf_of_decode`). It is free of
  `Expr.invalid` if and only if they were filled (**`Script.MadeOf.valid_iff`**), and it is read back
  if and only if they were (**`Script.MadeOf.readBack_iff`**).
-/

namespace ContractQuery

/-! ## 1. Scripts with their sections -/

namespace Body

open Json (Node)
open Micheline (Expr Readable)

/-- What was met of a script whose code is not split. -/
structure SectionParts where
  sections : Option (List Expr)
  storage : Option Expr

/-- The fields of a script whose code is not split. -/
def sectionFields : List (Field SectionParts) :=
  [⟨"code", (·.sections.isSome), fun met room node => do
      return { met with sections := some (← list expr room node) }⟩,
    ⟨"storage", (·.storage.isSome), fun met room node => do
      return { met with storage := some (← expr room node) }⟩]

/-- The sections and the storage of what was met. -/
def SectionParts.finish (met : SectionParts) : Except Failure (List Expr × Expr) := do
  return (← required "code" met.sections, ← required "storage" met.storage)

/-- A script, as the list of its sections and its storage. -/
def scriptSections : Decoder (List Expr × Expr) :=
  record .script sectionFields ⟨none, none⟩ SectionParts.finish

theorem readable_of_list {room : Nat} {node : Node} {es : List Expr}
    (h : list expr room node = .ok es) : ∃ inner, room = inner + 1 ∧ ∀ e ∈ es, Readable inner e := by
  unfold list at h
  split at h
  · obtain ⟨inner, hinner, h⟩ := bind_eq_ok_iff.mp h
    exact ⟨inner, enter_eq_ok_iff.mp hinner, Micheline.readable_of_eachItem h⟩
  · cases h

theorem code_eq_ok_iff {room : Nat} {node : Node} {c : Contract.Code} :
    code room node = .ok c ↔
      ∃ sections, list expr room node = .ok sections ∧ Contract.Code.ofSections sections = .ok c := by
  rw [code, bind_eq_ok_iff]
  refine exists_congr fun sections => and_congr_right fun _ => ?_
  cases Contract.Code.ofSections sections <;> simp [return_eq_ok_iff]

theorem isSome_eq_of_rel {α β : Type} {r : α → β → Prop} {a : Option α} {b : Option β}
    (h : Option.Rel r a b) : a.isSome = b.isSome := by
  cases h <;> rfl

theorem exists_of_rel_some {α β : Type} {r : α → β → Prop} {a : α} {b : Option β}
    (h : Option.Rel r (some a) b) : ∃ b', b = some b' ∧ r a b' := by
  cases h with
  | some hr => exact ⟨_, rfl, hr⟩

/-- The parts of a script, split and not split, where there was that much room for them. -/
structure SplitFrom (room : Nat) (met : ScriptParts) (parts : SectionParts) : Prop where
  code : Option.Rel (fun code sections => Contract.Code.ofSections sections = .ok code) met.code
    parts.sections
  storage : met.storage = parts.storage
  readable_sections : ∀ sections, parts.sections = some sections →
    ∃ inner, room = inner + 1 ∧ ∀ e ∈ sections, Readable inner e
  readable_storage : ∀ e, parts.storage = some e → Readable room e

/-- Each field of a script takes in what the same field takes in without splitting. -/
theorem scriptFields_simulated (room : Nat) :
    List.Forall₂ (Field.Simulated (SplitFrom room) room) scriptFields sectionFields := by
  refine .cons ⟨rfl, fun h => isSome_eq_of_rel h.code, fun {met next parts node} hR h => ?_⟩
    (.cons ⟨rfl, fun h => congrArg Option.isSome h.storage, fun {met next parts node} hR h => ?_⟩
      .nil)
  · obtain ⟨c, hc, hnext⟩ := bind_eq_ok_iff.mp h
    obtain rfl := return_eq_ok_iff.mp hnext
    obtain ⟨sections, hsections, hsplit⟩ := code_eq_ok_iff.mp hc
    refine ⟨{ parts with sections := some sections }, bind_eq_ok_iff.mpr ⟨sections, hsections, rfl⟩,
      .some hsplit, hR.storage, fun sections' hs => ?_, hR.readable_storage⟩
    obtain rfl := Option.some.inj hs
    exact readable_of_list hsections
  · obtain ⟨e, he, hnext⟩ := bind_eq_ok_iff.mp h
    obtain rfl := return_eq_ok_iff.mp hnext
    refine ⟨{ parts with storage := some e }, bind_eq_ok_iff.mpr ⟨e, he, rfl⟩, hR.code, rfl,
      hR.readable_sections, fun e' he' => ?_⟩
    obtain rfl := Option.some.inj he'
    exact Micheline.readable_of_expr he

/-- **A script that was read was split from its sections, and there was room for all of them.** -/
theorem sections_of_script {room : Nat} {node : Node} {s : Contract.Script}
    (h : script room node = .ok s) : ∃ inner sections, room = inner + 2 ∧
      scriptSections room node = .ok (sections, s.storage) ∧
      Contract.Code.ofSections sections = .ok s.code ∧
      (∀ e ∈ sections, Readable inner e) ∧ Readable (inner + 1) s.storage := by
  -- the fields stand inside the record, where there is room for one less
  have hstart : SplitFrom (room - 1) ⟨none, none⟩ ⟨none, none⟩ := ⟨.none, rfl, nofun, nofun⟩
  have hfields : ∀ {inner : Nat}, room = inner + 1 →
      List.Forall₂ (Field.Simulated (SplitFrom (room - 1)) inner) scriptFields sectionFields := by
    intro inner hinner
    rw [hinner, Nat.add_sub_cancel]
    exact scriptFields_simulated inner
  obtain ⟨met, parts, hR, hfinish, hrecord⟩ := record_sim hfields hstart h
  obtain ⟨c, hc, hfinish⟩ := bind_eq_ok_iff.mp hfinish
  obtain ⟨e, he, hfinish⟩ := bind_eq_ok_iff.mp hfinish
  obtain rfl := return_eq_ok_iff.mp hfinish
  have hmet := required_eq_ok_iff.mp hc
  have hstorage := hR.storage.symm.trans (required_eq_ok_iff.mp he)
  have hrel := hR.code
  rw [hmet] at hrel
  obtain ⟨sections, hsections, hsplit⟩ := exists_of_rel_some hrel
  obtain ⟨inner, hinner, hreadable⟩ := hR.readable_sections sections hsections
  have hroom : room = inner + 2 := by omega
  have hfinish' : parts.finish = .ok (sections, e) := by
    rw [SectionParts.finish, hsections, hstorage]
    rfl
  refine ⟨inner, sections, hroom, hrecord hfinish', hsplit, hreadable, ?_⟩
  rw [← hinner]
  exact hR.readable_storage e hstorage

/-! ## 2. Scripts that were written -/

theorem numberFree_script (s : Contract.Script) : s.toValue.NumberFree := by
  have hcode := Micheline.numberFree_toValues s.code.toSections
  have hstorage := s.storage.numberFree_toValue
  exact .object (by simpa using ⟨.array hcode, hstorage⟩)

/-- A script with its two members in the order in which they are written. -/
theorem script_object (room : Nat) (codeNode storageNode : Node) :
    script (room + 1) (.object (.member (Json.literalOf "code") codeNode
      (.member (Json.literalOf "storage") storageNode .closed))) = (do
        let c ← code room codeNode
        let e ← expr room storageNode
        return ⟨c, e⟩) := by
  simp only [script, record, enter, eachMember, readLiteral_literalOf]
  -- neither member was met before, and after both of them nothing is missing
  cases hcode : code room codeNode with
  | error failure => simp [takeField, scriptFields, hcode, bind, Except.bind]
  | ok c =>
    cases hstorage : expr room storageNode with
    | error failure =>
      simp [takeField, scriptFields, hcode, hstorage, bind, Except.bind, pure, Except.pure]
    | ok e =>
      simp [takeField, scriptFields, hcode, hstorage, ScriptParts.finish, required, bind,
        Except.bind, pure, Except.pure]

theorem list_outline_eq_ok_iff {room : Nat} {es es' : List Expr} :
    list expr (room + 1) (Json.Value.array (Micheline.toValues es)).outline = .ok es' ↔
      (∀ e ∈ es, Readable room e) ∧ es' = es := by
  rw [← Micheline.eachItem_outline_eq_ok_iff, Json.Value.outline, list, bind_eq_ok_iff]
  constructor
  · intro ⟨inner, hinner, h⟩
    obtain rfl := Nat.succ.inj (enter_eq_ok_iff.mp hinner)
    exact h
  · intro h
    exact ⟨room, rfl, h⟩

/-- **What a script that was written is read as.** -/
theorem script_outline_eq_ok_iff {room : Nat} {s s' : Contract.Script} :
    script (room + 2) s.toValue.outline = .ok s' ↔
      (∀ e ∈ s.code.toSections, Readable room e) ∧ Readable (room + 1) s.storage ∧
        Contract.Code.ofSections s.code.toSections = .ok s'.code ∧ s'.storage = s.storage := by
  rw [show s.toValue.outline = .object (.member (Json.literalOf "code") s.code.toValue.outline
    (.member (Json.literalOf "storage") s.storage.toValue.outline .closed)) from rfl,
    script_object, bind_eq_ok_iff]
  constructor
  · intro ⟨c, hc, h⟩
    obtain ⟨e, he, h⟩ := bind_eq_ok_iff.mp h
    obtain rfl := return_eq_ok_iff.mp h
    obtain ⟨sections, hsections, hsplit⟩ := code_eq_ok_iff.mp hc
    obtain ⟨hreadable, rfl⟩ := list_outline_eq_ok_iff.mp hsections
    obtain ⟨hstorage, heq⟩ := Micheline.expr_outline_eq_ok_iff.mp he
    exact ⟨hreadable, hstorage, hsplit, heq⟩
  · intro ⟨hreadable, hstorage, hsplit, heq⟩
    have hc : code (room + 1) s.code.toValue.outline = .ok s'.code :=
      code_eq_ok_iff.mpr ⟨_, list_outline_eq_ok_iff.mpr ⟨hreadable, rfl⟩, hsplit⟩
    have he : expr (room + 1) s.storage.toValue.outline = .ok s'.storage :=
      Micheline.expr_outline_eq_ok_iff.mpr ⟨hstorage, heq⟩
    exact ⟨s'.code, hc, bind_eq_ok_iff.mpr ⟨s'.storage, he, rfl⟩⟩

end Body

/-! ## 3. Filled sections -/

namespace Contract

open Micheline (Expr Readable)

/-- There is a section of the name, and the last one has an argument. -/
def FilledBy (sections : List Expr) (name : String) : Prop :=
  ∃ e, (named name sections).getLast? = some e ∧ e.args ≠ []

/-- The three sections that hold one argument are filled. -/
def Filled (sections : List Expr) : Prop :=
  ∀ name ∈ ["parameter", "storage", "code"], FilledBy sections name

/-- What the sections with one argument say, under their names. -/
def Code.arguments (code : Code) : List (String × Expr) :=
  [("parameter", code.paramType), ("storage", code.storageType), ("code", code.body)]

/-- Everything that a script consists of. -/
def Script.parts (s : Script) : List Expr :=
  s.code.arguments.map Prod.snd ++ (s.storage :: s.code.views)

theorem Code.toSections_eq (code : Code) :
    code.toSections = code.arguments.map (fun m => .apply m.1 [m.2]) ++ code.views := rfl

theorem filled_iff (sections : List Expr) (code : Code) :
    Filled sections ↔ ∀ m ∈ code.arguments, FilledBy sections m.1 := by
  have hnames : ["parameter", "storage", "code"] = code.arguments.map Prod.fst := rfl
  rw [Filled, hnames, List.forall_mem_map]

/-- What the last section of a name says is one of its arguments, or there is none. -/
theorem lastArg?_cases (name : String) (sections : List Expr) :
    (FilledBy sections name ∧ ∃ args annots, Expr.app name args annots ∈ sections ∧
        (lastArg? name sections).getD .invalid ∈ args) ∨
      (¬ FilledBy sections name ∧ (lastArg? name sections).getD .invalid = .invalid) := by
  unfold lastArg? FilledBy
  cases hlast : (named name sections).getLast? with
  | none => exact .inr ⟨by simp, rfl⟩
  | some e =>
    obtain ⟨hmem, hname⟩ := mem_named.mp (List.mem_of_getLast? hlast)
    cases e with
    | app other args annots =>
      obtain rfl := Option.some.inj hname
      cases args with
      | nil => exact .inr ⟨by simp [Expr.args], rfl⟩
      | cons arg rest => exact .inl ⟨⟨_, rfl, by simp [Expr.args]⟩, _, _, hmem, List.mem_cons_self⟩
    | _ => cases hname

/-- A script and the sections of its code: they were split, and all of it was read. -/
structure Script.MadeOf (s : Script) (sections : List Expr) : Prop where
  split : Code.ofSections sections = .ok s.code
  readable : ∀ e ∈ sections, Readable (Body.deepest - 2) e
  readable_storage : Readable (Body.deepest - 1) s.storage

/-- **A script that was decoded was made of the sections that its text has.** -/
theorem madeOf_of_decode {text : String} {s : Script} (h : Body.decode Body.script text = .ok s) :
    ∃ sections, Body.decode Body.scriptSections text = .ok (sections, s.storage) ∧
      s.MadeOf sections := by
  obtain ⟨hscript, htrailing⟩ := Body.decode_eq_ok_iff.mp h
  obtain ⟨room, sections, hroom, hsections, hsplit, hread, hstorage⟩ :=
    Body.sections_of_script hscript
  obtain rfl := Nat.add_right_cancel (m := 2) (hroom : 125 + 2 = room + 2)
  exact ⟨sections, Body.decode_eq_ok_iff.mpr ⟨hsections, htrailing⟩, hsplit, hread, hstorage⟩

namespace Script.MadeOf

variable {s : Script} {sections : List Expr}

theorem code_eq (h : s.MadeOf sections) : s.code = Code.split sections :=
  (Code.ofSections_eq_ok_iff.mp h.split).2

theorem argument_eq (h : s.MadeOf sections) {m : String × Expr} (hm : m ∈ s.code.arguments) :
    m.2 = (lastArg? m.1 sections).getD .invalid := by
  simp only [h.code_eq, Code.arguments, List.mem_cons, List.not_mem_nil, or_false] at hm
  rcases hm with rfl | rfl | rfl <;> rfl

/-- What a section with one argument says was read if the section was filled, and is
    `Expr.invalid` if not. -/
theorem argument_cases (h : s.MadeOf sections) {m : String × Expr} (hm : m ∈ s.code.arguments) :
    (FilledBy sections m.1 ∧ Readable (Body.deepest - 2) (.apply m.1 [m.2])) ∨
      (¬ FilledBy sections m.1 ∧ m.2 = .invalid) := by
  have harg := h.argument_eq hm
  rcases lastArg?_cases m.1 sections with ⟨hfilled, args, annots, hmem, hin⟩ | ⟨hnot, hinvalid⟩
  · refine .inl ⟨hfilled, (h.readable _ hmem).apply fun e he => ?_⟩
    rw [List.mem_singleton.mp he, harg]
    exact hin
  · exact .inr ⟨hnot, harg.trans hinvalid⟩

theorem argument_wellFormed_or (h : s.MadeOf sections) {m : String × Expr}
    (hm : m ∈ s.code.arguments) :
    (FilledBy sections m.1 ∧ m.2.WellFormed) ∨ (¬ FilledBy sections m.1 ∧ m.2 = .invalid) :=
  (h.argument_cases hm).imp_left fun ⟨hfilled, hwf, _⟩ =>
    ⟨hfilled, Expr.wellFormed_app.mp hwf m.2 (List.mem_singleton_self _)⟩

theorem view_eq (h : s.MadeOf sections) {v : Expr} (hv : v ∈ s.code.views) :
    ∃ e ∈ named "view" sections, v = .apply "view" e.args := by
  rw [h.code_eq, Code.views_split] at hv
  obtain ⟨e, he, rfl⟩ := List.mem_map.mp hv
  exact ⟨e, he, rfl⟩

theorem readable_view (h : s.MadeOf sections) {v : Expr} (hv : v ∈ s.code.views) :
    Readable (Body.deepest - 2) v := by
  obtain ⟨e, he, rfl⟩ := h.view_eq hv
  obtain ⟨hmem, hname⟩ := mem_named.mp he
  cases e with
  | app name args annots =>
    obtain rfl := Option.some.inj hname
    exact (h.readable _ hmem).apply fun e he => he
  | _ => cases hname

/-- The storage and the views are well formed, whatever the other sections are. -/
theorem wellFormed (h : s.MadeOf sections) : ∀ e ∈ s.storage :: s.code.views, e.WellFormed :=
  List.forall_mem_cons.mpr ⟨h.readable_storage.1, fun _ hv => (h.readable_view hv).1⟩

/-- What tells a section that was read from one that is missing tells whether all were filled. -/
theorem forall_arguments_iff (h : s.MadeOf sections) {P : String × Expr → Prop}
    (hread : ∀ m, Readable (Body.deepest - 2) (.apply m.1 [m.2]) → P m)
    (hmissing : ∀ m, m.2 = .invalid → ¬ P m) : (∀ m ∈ s.code.arguments, P m) ↔ Filled sections := by
  rw [filled_iff sections s.code]
  refine forall₂_congr fun m hm => ?_
  rcases h.argument_cases hm with ⟨hfilled, hm'⟩ | ⟨hnot, hm'⟩
  · exact iff_of_true (hread m hm') hfilled
  · exact iff_of_false (hmissing m hm') hnot

/-- **Nothing of what the script consists of is missing if and only if the sections were filled.** -/
theorem valid_iff (h : s.MadeOf sections) :
    (∀ e ∈ s.parts, Expr.invalid ∉ e.nodes) ↔ Filled sections := by
  have hothers : ∀ e ∈ s.storage :: s.code.views, Expr.invalid ∉ e.nodes :=
    fun e he => (h.wellFormed e he).invalid_not_mem
  rw [Script.parts, List.forall_mem_append, List.forall_mem_map, and_iff_left hothers]
  refine h.forall_arguments_iff (fun m hread => ?_) fun m hmissing hnot => hnot ?_
  · exact (Expr.wellFormed_app.mp hread.1 m.2 (List.mem_singleton_self _)).invalid_not_mem
  · rw [hmissing]
    exact List.mem_singleton_self _

/-- The sections can be read again if and only if they were filled. -/
theorem readable_toSections_iff (h : s.MadeOf sections) :
    (∀ e ∈ s.code.toSections, Readable (Body.deepest - 2) e) ↔ Filled sections := by
  have hviews : ∀ v ∈ s.code.views, Readable (Body.deepest - 2) v := fun _ => h.readable_view
  rw [Code.toSections_eq, List.forall_mem_append, List.forall_mem_map, and_iff_left hviews]
  refine h.forall_arguments_iff (fun _ hread => hread) fun m hmissing hread => ?_
  exact (Expr.wellFormed_app.mp hread.1 m.2 (List.mem_singleton_self _)).ne_invalid hmissing

/-- **The script is read back if and only if the sections were filled.** -/
theorem readBack_iff (h : s.MadeOf sections) (s' : Script) :
    Body.decode Body.script s.toValue.text = .ok s' ↔ Filled sections ∧ s' = s := by
  have hviews : ∀ v ∈ s.code.views, ∃ args, v = .apply "view" args := by
    intro v hv
    obtain ⟨e, -, hv⟩ := h.view_eq hv
    exact ⟨e.args, hv⟩
  -- the sections stand inside the script's object and inside the list of the code
  have hdeepest : Body.deepest = Body.deepest - 2 + 2 := rfl
  rw [Body.decode_text _ (Body.numberFree_script s), hdeepest, Body.script_outline_eq_ok_iff,
    h.readable_toSections_iff, Code.ofSections_toSections hviews, Except.ok.injEq]
  constructor
  · intro ⟨hfilled, _, hcode, hstorage⟩
    cases s
    cases s'
    cases hcode
    cases hstorage
    exact ⟨hfilled, rfl⟩
  · rintro ⟨hfilled, rfl⟩
    exact ⟨hfilled, h.readable_storage, rfl, rfl⟩

end Script.MadeOf

end Contract

end ContractQuery
