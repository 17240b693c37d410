import ContractQuery.Proofs.Contract.Sections
import ContractQuery.Proofs.Micheline.Inspect

/-!
# What a list of sections says

A list of sections is accepted as a whole or refused as a whole. Nothing in this file but the proofs
speaks of the order in which sections are taken.

* `Says name sections e`: what the sections of a name say. The last of them decides, even if it has no
  argument and an earlier one has.
* `Splits sections code`: the code holds what the sections say, name by name, and all the views.
* `Refuses sections e`: the first element that is no section. What follows it does not matter, nor
  which sections precede it.
* `Shown e text`: what the message shows of that element. Of an application it is the name; of anything
  else it is all of it, so the message tells which element was refused.
* **`ofSections_iff_splits`**: a list of sections is split, or refused for its first such element.
-/

namespace ContractQuery

namespace Contract

open Micheline (Expr Shows shows_iff)

/-! ## 1. The last section of a name -/

/-- No section of the list has the name. -/
def Without (name : String) (sections : List Expr) : Prop := ∀ s ∈ sections, s.name? ≠ some name

/-- What the sections of a name say. -/
inductive Says (name : String) : List Expr → Expr → Prop
  /-- There is no section of the name. -/
  | absent {sections : List Expr} (h : Without name sections) : Says name sections .invalid
  /-- The last section of the name has no argument. -/
  | empty {before after : List Expr} {annots : List String} (h : Without name after) :
    Says name (before ++ .app name [] annots :: after) .invalid
  /-- The last section of the name has arguments; all but the first are passed over. -/
  | first {before after args : List Expr} {arg : Expr} {annots : List String}
    (h : Without name after) : Says name (before ++ .app name (arg :: args) annots :: after) arg

/-- A list has no section of a name, or it has a last one. -/
theorem without_or_last (name : String) (sections : List Expr) : Without name sections ∨
    ∃ before args annots after,
      sections = before ++ .app name args annots :: after ∧ Without name after := by
  induction sections with
  | nil => exact .inl nofun
  | cons e rest ih =>
    rcases ih with hrest | ⟨before, args, annots, after, heq, hafter⟩
    · by_cases he : e.name? = some name
      · cases e with
        | app other args annots =>
          obtain rfl := Option.some.inj he
          exact .inr ⟨[], args, annots, rest, rfl, hrest⟩
        | _ => cases he
      · exact .inl (List.forall_mem_cons.mpr ⟨he, hrest⟩)
    · exact .inr ⟨e :: before, args, annots, after, by rw [heq, List.cons_append], hafter⟩

theorem lastArg?_of_without {name : String} {sections : List Expr} (h : Without name sections) :
    lastArg? name sections = none := by
  have hnone : named name sections = [] := by
    refine List.filter_eq_nil_iff.mpr fun s hs => ?_
    simpa using h s hs
  rw [lastArg?, hnone]
  rfl

theorem lastArg?_last {name : String} {before args after : List Expr} {annots : List String}
    (h : Without name after) :
    lastArg? name (before ++ .app name args annots :: after) = some (firstArg args) := by
  have hlast : lastArg? name (.app name args annots :: after) = some (firstArg args) := by
    rw [lastArg?_cons, lastArg?_of_without h, lastArg?, named_app, if_pos rfl]
    rfl
  induction before with
  | nil => exact hlast
  | cons e rest ih =>
    rw [List.cons_append, lastArg?_cons, ih]
    rfl

/-- **What the sections of a name say is what their last one says.** -/
theorem says_iff {name : String} {sections : List Expr} {e : Expr} :
    Says name sections e ↔ e = (lastArg? name sections).getD .invalid := by
  constructor
  · intro h
    cases h with
    | absent h => rw [lastArg?_of_without h, Option.getD_none]
    | empty h => rw [lastArg?_last h, Option.getD_some, firstArg, List.head?_nil, Option.getD_none]
    | first h => rw [lastArg?_last h, Option.getD_some, firstArg, List.head?_cons, Option.getD_some]
  · intro h
    rcases without_or_last name sections with hno | ⟨before, args, annots, after, heq, hafter⟩
    · rw [h, lastArg?_of_without hno]
      exact .absent hno
    · rw [h, heq, lastArg?_last hafter]
      cases args with
      | nil => exact .empty hafter
      | cons arg args => exact .first hafter

/-! ## 2. Lists that are split -/

/-- The code holds what the sections say: of the three names what their last section says, and of
    every view its arguments. -/
structure Splits (sections : List Expr) (code : Code) : Prop where
  parameter : Says "parameter" sections code.paramType
  storage : Says "storage" sections code.storageType
  body : Says "code" sections code.body
  views : code.views = (named "view" sections).map fun e => .app "view" e.args []

theorem splits_iff {sections : List Expr} {code : Code} :
    Splits sections code ↔ code = Code.split sections := by
  constructor
  · intro h
    have hparameter := says_iff.mp h.parameter
    have hstorage := says_iff.mp h.storage
    have hbody := says_iff.mp h.body
    have hviews := h.views.trans (Code.views_split sections).symm
    cases code
    rw [Code.split, Code.after, Code.mk.injEq]
    exact ⟨hparameter, hstorage, hbody, hviews⟩
  · intro h
    rw [h]
    exact ⟨says_iff.mpr rfl, says_iff.mpr rfl, says_iff.mpr rfl, Code.views_split sections⟩

/-! ## 3. Lists that are refused -/

/-- The first element of the list that is no section. -/
def Refuses (sections : List Expr) (e : Expr) : Prop :=
  ∃ before after, sections = before ++ e :: after ∧ (∀ s ∈ before, IsSection s) ∧ ¬ IsSection e

/-- What is shown of an element that is no section: the name of an application, and the whole of
    anything else. -/
inductive Shown : Expr → String → Prop
  | name (name : String) (args : List Expr) (annots : List String) :
    Shown (.app name args annots) name
  | whole {e : Expr} {text : String} (h : e.name? = none) (hshows : Shows e text) : Shown e text

/-- The text that is shown. -/
def shownOf (e : Expr) : String := e.name?.getD e.inspect

theorem shown_iff {e : Expr} {text : String} : Shown e text ↔ text = shownOf e := by
  constructor
  · intro h
    cases h with
    | name => rfl
    | whole h hshows => rw [shownOf, h, Option.getD_none, shows_iff.mp hshows]
  · intro h
    cases e with
    | app name args annots =>
      have hname : text = name := h
      rw [hname]
      exact .name name args annots
    | _ => exact .whole rfl (shows_iff.mpr h)

/-- Of what is no application all is shown. -/
theorem shown_iff_shows {e : Expr} {text : String} (h : e.name? = none) :
    Shown e text ↔ Shows e text := by
  rw [shown_iff, shownOf, h, Option.getD_none, shows_iff]

theorem refuses_cons_iff {first e : Expr} {rest : List Expr} : Refuses (first :: rest) e ↔
    (first = e ∧ ¬ IsSection e) ∨ (IsSection first ∧ Refuses rest e) := by
  constructor
  · intro ⟨before, after, heq, hbefore, he⟩
    cases before with
    | nil =>
      cases heq
      exact .inl ⟨rfl, he⟩
    | cons s before =>
      obtain ⟨hs, hrest⟩ := List.forall_mem_cons.mp hbefore
      cases heq
      exact .inr ⟨hs, before, after, rfl, hrest, he⟩
  · rintro (⟨rfl, he⟩ | ⟨hfirst, before, after, rfl, hbefore, he⟩)
    · exact ⟨[], rest, rfl, nofun, he⟩
    · exact ⟨first :: before, after, rfl, List.forall_mem_cons.mpr ⟨hfirst, hbefore⟩, he⟩

/-- An element that is no section is refused, and shown. -/
theorem Code.addSection_of_not_section (code : Code) {e : Expr} (h : ¬ IsSection e) :
    code.addSection e = .error ⟨shownOf e⟩ := by
  cases e with
  | app name args annots =>
    have hname : name ∉ sectionNames := fun hname => h ⟨name, hname, rfl⟩
    simp only [sectionNames, List.mem_cons, List.not_mem_nil, or_false, not_or] at hname
    obtain ⟨hparameter, hstorage, hcode, hview⟩ := hname
    rw [Code.addSection, if_neg hparameter, if_neg hstorage, if_neg hcode, if_neg hview]
    rfl
  | _ => rfl

/-- **One section that is refused.** -/
theorem Code.addSection_eq_error_iff {code : Code} {e : Expr} {fault : UnexpectedSection} :
    code.addSection e = .error fault ↔ ¬ IsSection e ∧ fault.shown = shownOf e := by
  constructor
  · intro h
    have hnot : ¬ IsSection e := fun he => by
      rw [Code.addSection_eq_ok_iff.mpr ⟨he, rfl⟩] at h
      cases h
    rw [code.addSection_of_not_section hnot] at h
    cases h
    exact ⟨hnot, rfl⟩
  · intro ⟨hnot, hshown⟩
    rw [code.addSection_of_not_section hnot, ← hshown]

/-- Sections are refused for their first element that is none, whatever was made of those before. -/
theorem Code.addSections_eq_error_iff {code : Code} {sections : List Expr}
    {fault : UnexpectedSection} : code.addSections sections = .error fault ↔
      ∃ e, Refuses sections e ∧ fault.shown = shownOf e := by
  induction sections generalizing code with
  | nil => simp [Code.addSections, Refuses]
  | cons first rest ih =>
    rw [Code.addSections]
    simp only [refuses_cons_iff]
    cases hstep : code.addSection first with
    | ok next =>
      have hfirst := (Code.addSection_eq_ok_iff.mp hstep).1
      rw [ih]
      refine exists_congr fun e => and_congr_left fun _ => ?_
      constructor
      · intro hrest
        exact .inr ⟨hfirst, hrest⟩
      · rintro (⟨rfl, he⟩ | ⟨_, hrest⟩)
        · exact absurd hfirst he
        · exact hrest
    | error other =>
      obtain ⟨hnot, hother⟩ := Code.addSection_eq_error_iff.mp hstep
      constructor
      · intro h
        cases h
        exact ⟨first, .inl ⟨rfl, hnot⟩, hother⟩
      · rintro ⟨e, ⟨rfl, _⟩ | ⟨hfirst, _⟩, hshown⟩
        · exact congrArg Except.error (congrArg UnexpectedSection.mk (hother.trans hshown.symm))
        · exact absurd hfirst hnot

/-! ## 4. Lists of sections -/

/-- The first element that is no section is one element. -/
theorem Refuses.unique {sections : List Expr} {e e' : Expr} (h : Refuses sections e)
    (h' : Refuses sections e') : e = e' := by
  induction sections with
  | nil =>
    obtain ⟨before, after, heq, -⟩ := h
    simp at heq
  | cons first rest ih =>
    rcases refuses_cons_iff.mp h with ⟨hfirst, hnot⟩ | ⟨hsection, hrest⟩
    · rcases refuses_cons_iff.mp h' with ⟨hfirst', -⟩ | ⟨hsection', -⟩
      · exact hfirst.symm.trans hfirst'
      · exact absurd (hfirst ▸ hsection') hnot
    · rcases refuses_cons_iff.mp h' with ⟨hfirst', hnot'⟩ | ⟨-, hrest'⟩
      · exact absurd (hfirst' ▸ hsection) hnot'
      · exact ih hrest hrest'

/-- **A list is accepted if and only if all of it are sections, and then its code holds what they say.
    Otherwise it is refused for the first element that is no section, of which its name is shown, or
    the whole of it if it is no application. No other element is shown as that one is.** -/
theorem ofSections_iff_splits (sections : List Expr) :
    ((∃ code, Code.ofSections sections = .ok code) ↔ ∀ e ∈ sections, IsSection e) ∧
    (∀ code, Code.ofSections sections = .ok code ↔
      (∀ e ∈ sections, IsSection e) ∧ Splits sections code) ∧
    (∀ fault, Code.ofSections sections = .error fault ↔
      ∃ e, Refuses sections e ∧ Shown e fault.shown) ∧
    (∀ fault e, Code.ofSections sections = .error fault → Refuses sections e → e.name? = none →
      ∀ other, Shows other fault.shown ↔ other = e) := by
  have hok : ∀ code, Code.ofSections sections = .ok code ↔
      (∀ e ∈ sections, IsSection e) ∧ Splits sections code := by
    intro code
    rw [Code.ofSections_eq_ok_iff, splits_iff]
  have herror : ∀ fault, Code.ofSections sections = .error fault ↔
      ∃ e, Refuses sections e ∧ Shown e fault.shown := by
    intro fault
    simp only [shown_iff]
    exact Code.addSections_eq_error_iff
  refine ⟨?_, hok, herror, ?_⟩
  · constructor
    · intro ⟨code, hcode⟩
      exact ((hok code).mp hcode).1
    · intro hall
      exact ⟨Code.split sections, (hok _).mpr ⟨hall, splits_iff.mpr rfl⟩⟩
  · intro fault e hfault he hname other
    obtain ⟨refused, hrefused, hshown⟩ := (herror fault).mp hfault
    obtain rfl := hrefused.unique he
    have hshows := (shown_iff_shows hname).mp hshown
    constructor
    · intro hother
      exact hother.unique hshows
    · intro hother
      rw [hother]
      exact hshows

/-- A sequence with an integer and an application in it, between two sections. -/
def nested : Expr :=
  .seq [.int "1", .app "Pair" [.string "a\"b", .bytes "00"] ["%x"]]

/-- All of the sequence is shown, at every depth; the sections about it are not, and no other element
    is shown so. -/
theorem ofSections_iff_splits_at_nested :
    ∃ fault, Code.ofSections [.apply "code" [], nested, .apply "tickets" []] = .error fault ∧
      fault.shown = "Seq([Int(\"1\"), App \x7b prim: \"Pair\", " ++
        "args: [String(\"a\\\"b\"), Bytes(\"00\")], annots: [\"%x\"] \x7d])" ∧
      ∀ other, Shows other fault.shown ↔ other = nested := by
  obtain ⟨-, -, -, hshown⟩ :=
    ofSections_iff_splits [.apply "code" [], nested, .apply "tickets" []]
  have hrefused : Refuses [.apply "code" [], nested, .apply "tickets" []] nested :=
    ⟨[.apply "code" []], [.apply "tickets" []], rfl,
      List.forall_mem_singleton.mpr ⟨"code", by simp [sectionNames], rfl⟩, nofun⟩
  refine ⟨⟨_⟩, rfl, rfl, ?_⟩
  exact hshown _ nested rfl hrefused rfl

/-- The section `code` comes a second time, without an argument. -/
example : Code.ofSections [.apply "code" [.seq []], .apply "view" [], .apply "code" []] =
    .ok ⟨.invalid, .invalid, .invalid, [.apply "view" []]⟩ := by
  rfl

end Contract

end ContractQuery
