import ContractQuery.Proofs.Contract.Sections

/-!
# Sections listed and split again

`Code.toSections` lists what `Code.ofSections` split. This file says what the second of them makes of
such a list, for any code, also for code that no list of sections makes.

* **`Code.ofSections_toSections_eq`**: the first three sections bring back the three arguments, whatever
  they are. What is left are the views, and they are taken one after the other as sections: what is
  named otherwise replaces an argument or is refused, and what has annotations loses them
  (`Code.ofSections_toSections_eq_ok_iff`).
* `Code.Plain`: all views are applications named `view` without annotations. One section keeps it
  (`Code.Plain.addSection`), and so a list of sections does (`Code.Plain.addSections`).
* **`splitAgain_iff_plain`**: code comes back if and only if it is plain. Code that was split is, so to
  list and split a second time changes nothing.
-/

namespace ContractQuery

namespace Contract

open Micheline (Expr)

/-! ## 1. The sections of any code -/

/-- The code without its views. -/
def Code.withoutViews (code : Code) : Code := { code with views := [] }

/-- **The first three sections bring back the arguments, and then the views are taken.** -/
theorem Code.ofSections_toSections_eq (code : Code) :
    Code.ofSections code.toSections = code.withoutViews.addSections code.views := rfl

/-- What is made of the sections of any code: its views have to be sections, and each of them adds to
    the code what a section of its name adds. -/
theorem Code.ofSections_toSections_eq_ok_iff {code code' : Code} :
    Code.ofSections code.toSections = .ok code' ↔
      (∀ v ∈ code.views, IsSection v) ∧ code' = code.withoutViews.after code.views := by
  rw [Code.ofSections_toSections_eq]
  exact Code.addSections_eq_ok_iff

/-- A view of another name replaces an argument, and one with annotations loses them. -/
example : Code.ofSections
    (Code.mk .invalid .invalid .invalid [.apply "code" [.seq []], .app "view" [] ["%a"]]).toSections =
      .ok ⟨.invalid, .invalid, .seq [], [.apply "view" []]⟩ := by
  rfl

/-! ## 2. Plain code -/

/-- All views of the code are applications named `view` without annotations. -/
def Code.Plain (code : Code) : Prop := ∀ v ∈ code.views, ∃ args, v = .app "view" args []

theorem Code.plain_empty : Code.empty.Plain := nofun

/-- **One section keeps code plain.** -/
theorem Code.Plain.addSection {code code' : Code} {e : Expr} (h : code.Plain)
    (hstep : code.addSection e = .ok code') : code'.Plain := by
  have hcode := (Code.addSection_eq_ok_iff.mp hstep).2
  intro v hv
  rw [hcode] at hv
  rcases List.mem_append.mp hv with hold | hnew
  · exact h v hold
  · obtain ⟨section', _, hsection⟩ := List.mem_map.mp hnew
    exact ⟨section'.args, hsection.symm⟩

/-- **A list of sections keeps code plain.** -/
theorem Code.Plain.addSections {code code' : Code} {sections : List Expr} (h : code.Plain)
    (hrun : code.addSections sections = .ok code') : code'.Plain := by
  induction sections generalizing code with
  | nil =>
    cases hrun
    exact h
  | cons e rest ih =>
    rw [Code.addSections] at hrun
    cases hstep : code.addSection e with
    | ok mid =>
      rw [hstep] at hrun
      exact ih (h.addSection hstep) hrun
    | error fault =>
      rw [hstep] at hrun
      cases hrun

theorem Code.plain_of_ofSections {sections : List Expr} {code : Code}
    (h : Code.ofSections sections = .ok code) : code.Plain := Code.plain_empty.addSections h

/-! ## 3. Listed and split again -/

/-- The sections of the list as the code lists them that they make. -/
def relist (sections : List Expr) : Except UnexpectedSection (List Expr) :=
  Code.toSections <$> Code.ofSections sections

/-- Code that was split comes back from its sections. -/
theorem Code.ofSections_toSections_of_ofSections {sections : List Expr} {code : Code}
    (h : Code.ofSections sections = .ok code) : Code.ofSections code.toSections = .ok code :=
  Code.ofSections_toSections (Code.plain_of_ofSections h)

/-- **Code is what its own sections make if and only if its views are applications named `view` without
    annotations, whatever its arguments are. Code that was split has such views and comes back. So a
    list of sections and the list that is made of it are split alike, or refused alike. Of any code
    what comes back are the arguments, but for those that a view of their name replaces, and the views
    without their annotations; where a view is no section, nothing comes back.** -/
theorem splitAgain_iff_plain :
    (∀ code : Code, Code.ofSections code.toSections = .ok code ↔
      ∀ v ∈ code.views, ∃ args, v = .app "view" args []) ∧
    (∀ (sections : List Expr) (code : Code), Code.ofSections sections = .ok code →
      (∀ v ∈ code.views, ∃ args, v = .app "view" args []) ∧
        Code.ofSections code.toSections = .ok code) ∧
    (∀ sections : List Expr,
      (relist sections >>= Code.ofSections) = Code.ofSections sections ∧
        (relist sections >>= relist) = relist sections) ∧
    (∀ code code' : Code, Code.ofSections code.toSections = .ok code' ↔
      (∀ v ∈ code.views, IsSection v) ∧ code' = code.withoutViews.after code.views) := by
  refine ⟨fun code => Code.ofSections_toSections_iff, fun sections code h => ?_, fun sections => ?_,
    fun _ _ => Code.ofSections_toSections_eq_ok_iff⟩
  · have hplain := Code.plain_of_ofSections h
    exact ⟨hplain, Code.ofSections_toSections_of_ofSections h⟩
  · unfold relist
    cases h : Code.ofSections sections with
    | error fault => exact ⟨rfl, rfl⟩
    | ok code =>
      have hagain := Code.ofSections_toSections_of_ofSections h
      show Code.ofSections code.toSections = .ok code ∧
        Code.toSections <$> Code.ofSections code.toSections = .ok code.toSections
      rw [hagain]
      exact ⟨rfl, rfl⟩

/-- Neither the section `storage` nor an argument of `parameter`, and a view with an annotation before
    the other sections. -/
theorem splitAgain_without_storage :
    let sections : List Expr := [.app "view" [.string "a"] ["%v"], .apply "code" [.seq []],
      .apply "parameter" [.apply "unit" []], .apply "view" [], .apply "parameter" []]
    let code : Code :=
      ⟨.invalid, .invalid, .seq [], [.apply "view" [.string "a"], .apply "view" []]⟩
    Code.ofSections sections = .ok code ∧
      (∀ v ∈ code.views, ∃ args, v = .app "view" args []) ∧
        Code.ofSections code.toSections = .ok code := by
  intro sections code
  have h : Code.ofSections sections = .ok code := rfl
  exact ⟨h, splitAgain_iff_plain.2.1 sections code h⟩

end Contract

end ContractQuery
