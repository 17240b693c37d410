import ContractQuery.Proofs.Body.Reading
import Mathlib.Data.List.Forall2

/-!
# Two readings of one record

A record may be read in two ways that differ in what is made of its fields. If field by field the
second reading goes along with the first one, so does the reading of the record.

* `Field.Simulated`: the step. What the first field takes in, the second takes in too, and what was
  met so far stays related.
* **`record_sim`**: the run, over the members of an object in any order and over the items of an
  array.
-/

namespace ContractQuery

namespace Body

open Json (Items Members Node)

variable {α β σ τ : Type}

/-- The second field, of the same name, goes along with the first one where there is that much
    room. -/
structure Field.Simulated (R : σ → τ → Prop) (room : Nat) (f : Field σ) (g : Field τ) : Prop where
  name : f.name = g.name
  isMet : ∀ {met : σ} {met' : τ}, R met met' → f.isMet met = g.isMet met'
  read : ∀ {met next : σ} {met' : τ} {node : Node}, R met met' → f.read met room node = .ok next →
    ∃ next', g.read met' room node = .ok next' ∧ R next next'

section Simulation

variable {R : σ → τ → Prop} {room : Nat}

/-- Of related fields both are found under a name, or neither is. -/
theorem find?_sim (name : String) : ∀ {fs : List (Field σ)} {gs : List (Field τ)},
    List.Forall₂ (Field.Simulated R room) fs gs →
    (fs.find? (·.name = name) = none ∧ gs.find? (·.name = name) = none) ∨
      ∃ f g, fs.find? (·.name = name) = some f ∧ gs.find? (·.name = name) = some g ∧
        f.Simulated R room g
  | _, _, .nil => .inl ⟨rfl, rfl⟩
  | f :: fs, g :: gs, .cons hfg hrest => by
    by_cases h : f.name = name
    · have hg : g.name = name := hfg.name.symm.trans h
      exact .inr ⟨f, g, List.find?_cons_of_pos (by simpa using h),
        List.find?_cons_of_pos (by simpa using hg), hfg⟩
    · have hg : ¬ g.name = name := fun hg => h (hfg.name.trans hg)
      rw [List.find?_cons_of_neg (by simpa using h), List.find?_cons_of_neg (by simpa using hg)]
      exact find?_sim name hrest

/-- One member of an object. -/
theorem takeField_sim {fs : List (Field σ)} {gs : List (Field τ)}
    (hfields : List.Forall₂ (Field.Simulated R room) fs gs) {met next : σ} {met' : τ}
    (name : String) (node : Node) (hmet : R met met')
    (h : takeField fs room met name node = .ok next) :
    ∃ next', takeField gs room met' name node = .ok next' ∧ R next next' := by
  unfold takeField at h ⊢
  rcases find?_sim name hfields with ⟨hf, hg⟩ | ⟨f, g, hf, hg, hfg⟩
  · rw [hf] at h
    rw [hg]
    obtain ⟨_, hskip, h⟩ := bind_eq_ok_iff.mp h
    obtain rfl := return_eq_ok_iff.mp h
    exact ⟨met', bind_eq_ok_iff.mpr ⟨_, hskip, rfl⟩, hmet⟩
  · rw [hf] at h
    rw [hg]
    simp only [hfg.isMet hmet] at h
    by_cases hdone : g.isMet met' = true
    · simp only [hdone, ↓reduceIte, reduceCtorEq] at h
    · simp only [hdone, ↓reduceIte, Bool.false_eq_true] at h ⊢
      exact hfg.read hmet h

/-- All members of an object. -/
theorem eachMember_sim {take : σ → String → Node → Except Failure σ}
    {take' : τ → String → Node → Except Failure τ}
    (htake : ∀ {met next : σ} {met' : τ} (name : String) (node : Node), R met met' →
      take met name node = .ok next → ∃ next', take' met' name node = .ok next' ∧ R next next') :
    ∀ {members : Members} {met next : σ} {met' : τ}, R met met' →
      eachMember take met members = .ok next →
      ∃ next', eachMember take' met' members = .ok next' ∧ R next next'
  | .closed, met, next, met', hmet, h => by
    cases h
    exact ⟨met', rfl, hmet⟩
  | .stopped why, _, _, _, _, h => by cases h
  | .member key node rest, met, next, met', hmet, h => by
    rw [eachMember] at h
    obtain ⟨name, hname, h⟩ := bind_eq_ok_iff.mp h
    obtain ⟨mid, hmid, h⟩ := bind_eq_ok_iff.mp h
    obtain ⟨mid', hmid', hR⟩ := htake name node hmet hmid
    obtain ⟨next', hnext', hR'⟩ := eachMember_sim htake hR h
    exact ⟨next', bind_eq_ok_iff.mpr ⟨name, hname, bind_eq_ok_iff.mpr ⟨mid', hmid', hnext'⟩⟩, hR'⟩

/-- The items of an array, one for each field. -/
theorem readFields_sim {r : Record} : ∀ {fs : List (Field σ)} {gs : List (Field τ)} {count : Nat}
    {met next : σ} {met' : τ} {items : Items}, List.Forall₂ (Field.Simulated R room) fs gs →
    R met met' → readFields r room count met fs items = .ok next →
    ∃ next', readFields r room count met' gs items = .ok next' ∧ R next next'
  | _, _, _, met, _, met', .closed, .nil, hmet, h => by
    cases h
    exact ⟨met', rfl, hmet⟩
  | _, _, _, _, _, _, .closed, .cons _ _, _, h => by cases h
  | _, _, _, _, _, _, .stopped _, .nil, _, h => by cases h
  | _, _, _, _, _, _, .stopped _, .cons _ _, _, h => by cases h
  | _, _, _, _, _, _, .item _ _, .nil, _, h => by cases h
  | _, _, _, _, _, _, .item node rest, .cons hfg hrest, hmet, h => by
    rw [readFields] at h
    obtain ⟨mid, hmid, h⟩ := bind_eq_ok_iff.mp h
    obtain ⟨mid', hmid', hR⟩ := hfg.read hmet hmid
    obtain ⟨next', hnext', hR'⟩ := readFields_sim hrest hR h
    exact ⟨next', bind_eq_ok_iff.mpr ⟨mid', hmid', hnext'⟩, hR'⟩

end Simulation

/-- **Where a record is read in the first way it is read in the second, up to what is made of its
    parts in the end.** -/
theorem record_sim {R : σ → τ → Prop} {r : Record} {fs : List (Field σ)} {gs : List (Field τ)}
    {start : σ} {start' : τ} {finish : σ → Except Failure α} {room : Nat} {node : Node} {a : α}
    (hfields : ∀ {inner : Nat}, room = inner + 1 → List.Forall₂ (Field.Simulated R inner) fs gs)
    (hstart : R start start') (h : record r fs start finish room node = .ok a) :
    ∃ met met', R met met' ∧ finish met = .ok a ∧
      ∀ {finish' : τ → Except Failure β} {b : β}, finish' met' = .ok b →
        record r gs start' finish' room node = .ok b := by
  unfold record at h
  split at h
  · obtain ⟨inner, hinner, h⟩ := bind_eq_ok_iff.mp h
    obtain ⟨met, hmet, h⟩ := bind_eq_ok_iff.mp h
    obtain ⟨met', hmet', hR⟩ := readFields_sim (hfields (enter_eq_ok_iff.mp hinner)) hstart hmet
    exact ⟨met, met', hR, h, fun hb =>
      bind_eq_ok_iff.mpr ⟨inner, hinner, bind_eq_ok_iff.mpr ⟨met', hmet', hb⟩⟩⟩
  · obtain ⟨inner, hinner, h⟩ := bind_eq_ok_iff.mp h
    obtain ⟨met, hmet, h⟩ := bind_eq_ok_iff.mp h
    obtain ⟨met', hmet', hR⟩ :=
      eachMember_sim (takeField_sim (hfields (enter_eq_ok_iff.mp hinner))) hstart hmet
    exact ⟨met, met', hR, h, fun hb =>
      bind_eq_ok_iff.mpr ⟨inner, hinner, bind_eq_ok_iff.mpr ⟨met', hmet', hb⟩⟩⟩
  · cases h

end Body

end ContractQuery
