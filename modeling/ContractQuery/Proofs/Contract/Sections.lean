import ContractQuery.Contract.Code
import Mathlib.Data.List.Forall2

/-!
# Code and its sections

`Code.ofSections` takes sections one after the other, `Code.toSections` lists them again. This file
says what the first makes of a list as a whole, and what of it the second gives back.

* `Code.after` is the code after some more sections, each of its parts by itself: of a name the last
  section decides, and the views are appended in order.
* **`Code.ofSections_eq_ok_iff`**: a list is accepted if and only if all of it are sections, and then
  its code is that. One section is the step (`Code.addSection_eq_ok_iff`), the list the induction.
* `Code.ofSections_toSections_iff`: code is what its own sections make if and only if its views are
  plain.
* **`toSections_of_complete`**: the sections of a complete contract are all there again. Only
  annotations of sections can be missing, and those of the three that hold one argument are
  (`annots_not_kept`).
-/

namespace ContractQuery

namespace Contract

open Micheline (Expr)

/-! ## 1. The sections of a name -/

/-- The names of sections. -/
def sectionNames : List String := ["parameter", "storage", "code", "view"]

/-- A section: an application with one of the four names. -/
def IsSection (e : Expr) : Prop := ∃ name ∈ sectionNames, e.name? = some name

/-- The sections of a name, in order. -/
def named (name : String) (sections : List Expr) : List Expr := sections.filter (·.name? = some name)

theorem named_cons_of_eq {name : String} {e : Expr} (h : e.name? = some name) (rest : List Expr) :
    named name (e :: rest) = e :: named name rest :=
  List.filter_cons_of_pos (by simp [h])

theorem named_cons_of_ne {name : String} {e : Expr} (h : e.name? ≠ some name) (rest : List Expr) :
    named name (e :: rest) = named name rest :=
  List.filter_cons_of_neg (by simp [h])

theorem named_app (wanted name : String) (args : List Expr) (annots : List String) :
    named wanted [.app name args annots] = if name = wanted then [.app name args annots] else [] := by
  by_cases h : name = wanted <;> simp [named, Expr.name?, h]

theorem named_append (name : String) (front back : List Expr) :
    named name (front ++ back) = named name front ++ named name back := List.filter_append ..

theorem mem_named {name : String} {sections : List Expr} {e : Expr} :
    e ∈ named name sections ↔ e ∈ sections ∧ e.name? = some name := by
  simp [named]

/-- What the last section of a name says, if there is such a section. -/
def lastArg? (name : String) (sections : List Expr) : Option Expr :=
  (named name sections).getLast?.map fun e => firstArg e.args

theorem lastArg?_cons (name : String) (e : Expr) (rest : List Expr) :
    lastArg? name (e :: rest) = (lastArg? name rest).or (lastArg? name [e]) := by
  unfold lastArg?
  by_cases h : e.name? = some name
  · rw [named_cons_of_eq h, named_cons_of_eq h, List.getLast?_cons]
    cases (named name rest).getLast? <;> rfl
  · rw [named_cons_of_ne h, named_cons_of_ne h]
    cases (named name rest).getLast? <;> rfl

/-! ## 2. What a list of sections makes -/

/-- The code after some more sections. -/
def Code.after (code : Code) (sections : List Expr) : Code where
  paramType := (lastArg? "parameter" sections).getD code.paramType
  storageType := (lastArg? "storage" sections).getD code.storageType
  body := (lastArg? "code" sections).getD code.body
  views := code.views ++ (named "view" sections).map fun e => .apply "view" e.args

/-- The code of a list of sections. -/
def Code.split (sections : List Expr) : Code := Code.empty.after sections

theorem Code.after_cons (code : Code) (e : Expr) (rest : List Expr) :
    code.after (e :: rest) = (code.after [e]).after rest := by
  have hviews : named "view" (e :: rest) = named "view" [e] ++ named "view" rest :=
    named_append "view" [e] rest
  have harg : ∀ (name : String) (x : Expr), (lastArg? name (e :: rest)).getD x =
      (lastArg? name rest).getD ((lastArg? name [e]).getD x) := by
    intro name x
    rw [lastArg?_cons]
    cases lastArg? name rest <;> rfl
  simp only [Code.after, harg, hviews, List.map_append, List.append_assoc]

/-- One more application, with one of the four names or not. -/
theorem Code.after_app (code : Code) (name : String) (args : List Expr) (annots : List String) :
    code.after [.app name args annots] =
      { paramType := if name = "parameter" then firstArg args else code.paramType
        storageType := if name = "storage" then firstArg args else code.storageType
        body := if name = "code" then firstArg args else code.body
        views := if name = "view" then code.views ++ [.apply "view" args] else code.views } := by
  have harg : ∀ (wanted : String) (x : Expr),
      (lastArg? wanted [Expr.app name args annots]).getD x =
        if name = wanted then firstArg args else x := by
    intro wanted x
    rw [lastArg?, named_app]
    split <;> rfl
  simp only [Code.after, harg, named_app]
  by_cases hview : name = "view"
  · rw [if_pos hview, if_pos hview]
    rfl
  · rw [if_neg hview, if_neg hview, List.map_nil, List.append_nil]

/-- **One section.** -/
theorem Code.addSection_eq_ok_iff {code code' : Code} {e : Expr} :
    code.addSection e = .ok code' ↔ IsSection e ∧ code' = code.after [e] := by
  cases e with
  | app name args annots =>
    rw [Code.after_app]
    by_cases hparam : name = "parameter"
    · simp [Code.addSection, IsSection, sectionNames, Expr.name?, hparam, eq_comm]
    by_cases hstorage : name = "storage"
    · simp [Code.addSection, IsSection, sectionNames, Expr.name?, hstorage, eq_comm]
    by_cases hcode : name = "code"
    · simp [Code.addSection, IsSection, sectionNames, Expr.name?, hcode, eq_comm]
    by_cases hview : name = "view"
    · simp [Code.addSection, IsSection, sectionNames, Expr.name?, hview, eq_comm]
    · simp [Code.addSection, IsSection, sectionNames, Expr.name?, hparam, hstorage, hcode, hview]
  | _ => simp [Code.addSection, IsSection, sectionNames, Expr.name?]

theorem Code.addSections_eq_ok_iff {code code' : Code} {sections : List Expr} :
    code.addSections sections = .ok code' ↔
      (∀ e ∈ sections, IsSection e) ∧ code' = code.after sections := by
  induction sections generalizing code with
  | nil => simp [Code.addSections, Code.after, lastArg?, named, eq_comm]
  | cons e rest ih =>
    rw [Code.addSections, Code.after_cons, List.forall_mem_cons]
    cases hstep : code.addSection e with
    | ok mid =>
      obtain ⟨he, rfl⟩ := Code.addSection_eq_ok_iff.mp hstep
      exact ih.trans (by simp [he])
    | error fault =>
      have hnot : ¬ IsSection e := fun he => by
        have hok : code.addSection e = .ok (code.after [e]) :=
          Code.addSection_eq_ok_iff.mpr ⟨he, rfl⟩
        rw [hstep] at hok
        cases hok
      simp [hnot]

/-- **What is made of a list of sections.** -/
theorem Code.ofSections_eq_ok_iff {sections : List Expr} {code : Code} :
    Code.ofSections sections = .ok code ↔
      (∀ e ∈ sections, IsSection e) ∧ code = Code.split sections :=
  Code.addSections_eq_ok_iff

/-- Every view that was split off is plain. -/
theorem Code.views_split (sections : List Expr) :
    (Code.split sections).views = (named "view" sections).map fun e => .apply "view" e.args :=
  List.nil_append _

/-- The sections of code, name by name. -/
theorem Code.named_toSections (code : Code) (name : String) :
    named name code.toSections = named name [.apply "parameter" [code.paramType],
      .apply "storage" [code.storageType], .apply "code" [code.body]] ++ named name code.views :=
  named_append ..

/-- **Code with plain views is what its own sections make.** -/
theorem Code.ofSections_toSections {code : Code}
    (h : ∀ v ∈ code.views, ∃ args, v = .apply "view" args) :
    Code.ofSections code.toSections = .ok code := by
  have hview : ∀ v ∈ code.views, v.name? = some "view" ∧ .apply "view" v.args = v := by
    intro v hv
    obtain ⟨args, rfl⟩ := h v hv
    exact ⟨rfl, rfl⟩
  have hviews : named "view" code.views = code.views :=
    List.filter_eq_self.mpr fun v hv => by simp [(hview v hv).1]
  have hothers : ∀ name, name ≠ "view" → named name code.views = [] := by
    intro name hname
    refine List.filter_eq_nil_iff.mpr fun v hv => ?_
    simpa [(hview v hv).1] using hname.symm
  have hplain : code.views.map (fun v => Expr.apply "view" v.args) = code.views :=
    (List.map_congr_left fun v hv => (hview v hv).2).trans (List.map_id _)
  refine Code.ofSections_eq_ok_iff.mpr ⟨fun e he => ?_, ?_⟩
  · simp only [Code.toSections, List.mem_append, List.mem_cons, List.not_mem_nil, or_false] at he
    rcases he with (rfl | rfl | rfl) | he
    · exact ⟨"parameter", by decide, rfl⟩
    · exact ⟨"storage", by decide, rfl⟩
    · exact ⟨"code", by decide, rfl⟩
    · exact ⟨"view", by decide, (hview e he).1⟩
  · have hparam : lastArg? "parameter" code.toSections = some code.paramType := by
      rw [lastArg?, Code.named_toSections, hothers _ (by decide)]
      rfl
    have hstorage : lastArg? "storage" code.toSections = some code.storageType := by
      rw [lastArg?, Code.named_toSections, hothers _ (by decide)]
      rfl
    have hbody : lastArg? "code" code.toSections = some code.body := by
      rw [lastArg?, Code.named_toSections, hothers _ (by decide)]
      rfl
    have hsplit : named "view" code.toSections = code.views := by
      rw [Code.named_toSections, hviews]
      rfl
    rw [Code.split, Code.after, hparam, hstorage, hbody, hsplit, hplain]
    rfl

/-- Only code with plain views is what its own sections make: whatever else stands among the views
    is refused, or taken for another section, or loses its annotations. -/
theorem Code.ofSections_toSections_iff {code : Code} :
    Code.ofSections code.toSections = .ok code ↔ ∀ v ∈ code.views, ∃ args, v = .apply "view" args := by
  constructor
  · intro h v hv
    have hsplit : code = Code.split code.toSections := (Code.ofSections_eq_ok_iff.mp h).2
    rw [hsplit, Code.views_split] at hv
    obtain ⟨e, _, rfl⟩ := List.mem_map.mp hv
    exact ⟨e.args, rfl⟩
  · exact Code.ofSections_toSections

/-! ## 3. Complete contracts -/

/-- The sections of a complete contract: parameter, storage and code once each and with one argument,
    and nothing else but views. -/
structure Complete (sections : List Expr) : Prop where
  parameter : ∃ arg annots, named "parameter" sections = [.app "parameter" [arg] annots]
  storage : ∃ arg annots, named "storage" sections = [.app "storage" [arg] annots]
  code : ∃ arg annots, named "code" sections = [.app "code" [arg] annots]
  sections : ∀ e ∈ sections, IsSection e

/-- What a section is when it is listed again. A section that holds one argument has no annotations;
    a view that had none is the same. -/
inductive Kept : Expr → Expr → Prop
  | argument {name : String} (hname : name = "parameter" ∨ name = "storage" ∨ name = "code")
    (arg : Expr) (annots : List String) : Kept (.app name [arg] annots) (.app name [arg] [])
  | view (args : List Expr) {annots annots' : List String} (h : annots = [] → annots' = []) :
    Kept (.app "view" args annots) (.app "view" args annots')

/-- Applications put in the order of their names are the same applications. -/
theorem perm_flatMap_named : ∀ {names : List String} {sections : List Expr}, names.Nodup →
    (∀ e ∈ sections, ∃ name ∈ names, e.name? = some name) →
    (names.flatMap (named · sections)).Perm sections
  | [], sections, _, h => by
    have hnil : sections = [] := List.eq_nil_iff_forall_not_mem.mpr fun e he => by
      obtain ⟨name, hname, -⟩ := h e he
      cases hname
    rw [hnil]
    exact .nil
  | name :: names, sections, hnodup, h => by
    -- those of the first name, and the others, of which the rest of the names has all
    let others := sections.filter fun e => !decide (e.name? = some name)
    have hothers : ∀ other ∈ names, named other others = named other sections := by
      intro other hother
      have hne : other ≠ name := fun heq => (List.nodup_cons.mp hnodup).1 (heq ▸ hother)
      rw [named, named, List.filter_filter]
      refine List.filter_congr fun e _ => ?_
      by_cases he : e.name? = some other <;> simp [he, hne]
    have hperm : (names.flatMap (named · others)).Perm others := by
      refine perm_flatMap_named (List.nodup_cons.mp hnodup).2 fun e he => ?_
      obtain ⟨hmem, hne⟩ := List.mem_filter.mp he
      obtain ⟨name', hname', heq⟩ := h e hmem
      rcases List.mem_cons.mp hname' with rfl | hname'
      · simp [heq] at hne
      · exact ⟨name', hname', heq⟩
    have hflat : names.flatMap (named · others) = names.flatMap (named · sections) :=
      List.flatMap_congr hothers
    rw [hflat] at hperm
    rw [List.flatMap_cons]
    exact (hperm.append_left _).trans (List.filter_append_perm _ sections)

theorem Kept.eq : ∀ {e e' : Expr}, Kept e e' → e.annots = [] → e' = e
  | _, _, .argument _ _ annots, hannots => by
    have hnil : annots = [] := hannots
    rw [hnil]
  | _, _, @Kept.view _ annots _ h, hannots => by
    have hnil : annots = [] := hannots
    rw [hnil, h hnil]

theorem eq_of_forall₂_kept : ∀ {es es' : List Expr}, List.Forall₂ Kept es es' →
    (∀ e ∈ es, e.annots = []) → es' = es
  | _, _, .nil, _ => rfl
  | _, _, .cons h hs, hannots => by
    have hhead := h.eq (hannots _ List.mem_cons_self)
    have htail := eq_of_forall₂_kept hs fun e he => hannots e (List.mem_cons_of_mem _ he)
    rw [hhead, htail]

/-- Every view is kept. -/
theorem kept_views (sections : List Expr) :
    List.Forall₂ Kept (named "view" sections) (Code.split sections).views := by
  rw [Code.views_split]
  refine List.forall₂_map_right_iff.mpr (List.forall₂_same.mpr fun e he => ?_)
  have hname := (mem_named.mp he).2
  cases e with
  | app name args annots =>
    obtain rfl := Option.some.inj hname
    exact .view args fun _ => rfl
  | _ => cases hname

/-- The sections in the order of their names, and what they are listed as. -/
theorem Complete.kept {sections : List Expr} (h : Complete sections) :
    List.Forall₂ Kept (sectionNames.flatMap (named · sections)) (Code.split sections).toSections := by
  obtain ⟨param, paramAnnots, hparam⟩ := h.parameter
  obtain ⟨storage, storageAnnots, hstorage⟩ := h.storage
  obtain ⟨body, bodyAnnots, hbody⟩ := h.code
  have horder : sectionNames.flatMap (named · sections) =
      .app "parameter" [param] paramAnnots :: .app "storage" [storage] storageAnnots ::
        .app "code" [body] bodyAnnots :: named "view" sections := by
    simp [sectionNames, hparam, hstorage, hbody]
  have hsections : (Code.split sections).toSections =
      .app "parameter" [param] [] :: .app "storage" [storage] [] :: .app "code" [body] [] ::
        (Code.split sections).views := by
    simp only [Code.toSections, Code.split, Code.after, lastArg?, hparam, hstorage, hbody]
    rfl
  rw [horder, hsections]
  exact .cons (.argument (.inl rfl) param paramAnnots)
    (.cons (.argument (.inr (.inl rfl)) storage storageAnnots)
      (.cons (.argument (.inr (.inr rfl)) body bodyAnnots) (kept_views sections)))

/-- **The sections of a complete contract are accepted, and they are all there when they are listed
    again: each with its name and its arguments, the views in their order. Without annotations on
    sections nothing is lost.** -/
theorem toSections_of_complete {sections : List Expr} (h : Complete sections) :
    ∃ code, Code.ofSections sections = .ok code ∧
      (∃ order : List Expr, order.Perm sections ∧ List.Forall₂ Kept order code.toSections) ∧
      List.Forall₂ Kept (named "view" sections) code.views ∧
      ((∀ e ∈ sections, e.annots = []) →
        code.toSections.Perm sections ∧ code.views = named "view" sections) := by
  have hperm : (sectionNames.flatMap (named · sections)).Perm sections :=
    perm_flatMap_named (by decide) h.sections
  have hviews := kept_views sections
  refine ⟨Code.split sections, Code.ofSections_eq_ok_iff.mpr ⟨h.sections, rfl⟩,
    ⟨_, hperm, h.kept⟩, hviews, fun hannots => ⟨?_, ?_⟩⟩
  · have heq := eq_of_forall₂_kept h.kept fun e he => hannots e (hperm.mem_iff.mp he)
    rw [heq]
    exact hperm
  · exact eq_of_forall₂_kept hviews fun e he => hannots e (mem_named.mp he).1

/-- A complete contract whose parameter has an annotation, with two views around the other
    sections. -/
theorem toSections_of_annotated :
    let sections : List Expr := [.apply "view" [.string "a"], .apply "code" [.seq []],
      .app "parameter" [.apply "unit" []] ["%root"], .apply "storage" [.apply "nat" []],
      .apply "view" [.string "b"]]
    Complete sections ∧ ∃ code, Code.ofSections sections = .ok code ∧
      (∃ order : List Expr, order.Perm sections ∧ List.Forall₂ Kept order code.toSections) ∧
      List.Forall₂ Kept (named "view" sections) code.views ∧
      ((∀ e ∈ sections, e.annots = []) →
        code.toSections.Perm sections ∧ code.views = named "view" sections) := by
  intro sections
  have h : Complete sections :=
    ⟨⟨_, _, rfl⟩, ⟨_, _, rfl⟩, ⟨_, _, rfl⟩, by simp [sections, IsSection, sectionNames, Expr.apply,
      Expr.name?]⟩
  exact ⟨h, toSections_of_complete h⟩

/-- **An annotation of the section `parameter` is not there any more.** -/
theorem annots_not_kept : ¬ ∀ sections : List Expr, Complete sections →
    ∃ code, Code.ofSections sections = .ok code ∧ code.toSections.Perm sections ∧
      code.views = named "view" sections := by
  intro h
  let annotated : Expr := .app "parameter" [.apply "unit" []] ["%root"]
  let sections : List Expr := [annotated, .apply "storage" [.apply "nat" []],
    .apply "code" [.seq []]]
  have hcomplete : Complete sections :=
    ⟨⟨_, _, rfl⟩, ⟨_, _, rfl⟩, ⟨_, _, rfl⟩, by simp [sections, annotated, IsSection, sectionNames,
      Expr.apply, Expr.name?]⟩
  obtain ⟨code, hcode, hperm, -⟩ := h sections hcomplete
  obtain ⟨-, rfl⟩ := Code.ofSections_eq_ok_iff.mp hcode
  have hmem : annotated ∈ (Code.split sections).toSections :=
    hperm.mem_iff.mpr List.mem_cons_self
  exact absurd hmem (by decide +kernel)

end Contract

end ContractQuery
