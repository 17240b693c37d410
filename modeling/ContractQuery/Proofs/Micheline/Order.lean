import ContractQuery.Proofs.Body.Grammatical
import ContractQuery.Proofs.Micheline.Acceptance
import Mathlib.Data.List.Perm.Basic
import Mathlib.Logic.Relation

/-!
# The order of members does not matter at any depth

An expression is read from a value, and a value from an outline. Where the members of an object change
places in the outline, deep inside it or not, the same is read: the same expression, or the same failure.

* `Inside R`: somewhere inside two outlines, at one place, `R` holds between what stands there; all the
  rest is the same.
* `Kept v w`: whatever `v` is read as, on its own or as a part of something larger, `w` is read as too.
  `Kept.array` and `Kept.object` carry it outwards, one level at a time; `Kept.perm` is where it begins.
* `Follows`: the same for outlines, with all that may go wrong in reading them.
* **`expr_eq_of_reordered`**: an expression, and a failure, is the same after any number of changes.
-/

namespace ContractQuery

namespace Json

/-! ## 1. Somewhere inside -/

/-- Somewhere inside the two outlines, at one place, there is something between which `R` holds, and
    around it they are the same. -/
inductive Inside (R : Node → Node → Prop) : Node → Node → Prop
  | here {a b : Node} (h : R a b) : Inside R a b
  | item (before after : List Node) {a b : Node} (h : Inside R a b) :
    Inside R (.array (.ofList (before ++ a :: after))) (.array (.ofList (before ++ b :: after)))
  | member (before after : List (Literal × Node)) (key : Literal) {a b : Node} (h : Inside R a b) :
    Inside R (.object (.ofList (before ++ (key, a) :: after)))
      (.object (.ofList (before ++ (key, b) :: after)))

/-- The members of an object in another order. -/
inductive Permutes : Node → Node → Prop
  | mk {ms ns : List (Literal × Node)} (h : ms.Perm ns) :
    Permutes (.object (.ofList ms)) (.object (.ofList ns))

theorem Inside.symm {R : Node → Node → Prop} (hR : ∀ {a b}, R a b → R b a) {a b : Node}
    (h : Inside R a b) : Inside R b a := by
  induction h with
  | here h => exact .here (hR h)
  | item before after _ ih => exact .item before after ih
  | member before after key _ ih => exact .member before after key ih

theorem Permutes.symm {a b : Node} (h : Permutes a b) : Permutes b a := by
  cases h with
  | mk h => exact .mk h.symm

end Json

namespace Micheline

open Json (Inside Literal Members Node Permutes Value)

/-! ## 2. What is kept of a value -/

/-- Whatever the first value is read as, the second one is read as too: on its own, as a string, as the
    arguments or the annotations of an application, and as an integer that may be no numeral. -/
structure Kept (v w : Value) : Prop where
  denotes : ∀ {e}, Denotes v e → Denotes w e
  string : ∀ {text}, v = .string text → w = .string text
  args : ∀ {vs es}, v = .array vs → DenotesAll vs es → ∃ ws, w = .array ws ∧ DenotesAll ws es
  annots : ∀ {texts}, v = .array (stringValues texts) → w = .array (stringValues texts)
  intText : ∀ {text}, intText? v = some text → intText? w = some text

theorem Kept.refl (v : Value) : Kept v v :=
  ⟨id, id, fun hv hvs => ⟨_, hv, hvs⟩, id, id⟩

theorem Kept.trans {u v w : Value} (h : Kept u v) (h' : Kept v w) : Kept u w where
  denotes hu := h'.denotes (h.denotes hu)
  string hu := h'.string (h.string hu)
  args hu hes := by
    obtain ⟨vs, hv, hvs⟩ := h.args hu hes
    exact h'.args hv hvs
  annots hu := h'.annots (h.annots hu)
  intText hu := h'.intText (h.intText hu)

theorem DenotesAll.kept {vs ws : List Value} (h : List.Forall₂ Kept vs ws) :
    ∀ {es : List Expr}, DenotesAll vs es → DenotesAll ws es := by
  induction h with
  | nil => exact id
  | cons hv _ ih =>
    intro es hes
    cases hes with
    | cons he hes => exact .cons (hv.denotes he) (ih hes)

theorem stringValues_kept {vs ws : List Value} (h : List.Forall₂ Kept vs ws) :
    ∀ {texts : List String}, vs = stringValues texts → ws = stringValues texts := by
  induction h with
  | nil => exact id
  | cons hv _ ih =>
    intro texts htexts
    cases texts with
    | nil => cases htexts
    | cons text texts =>
      obtain ⟨hfirst, hrest⟩ := List.cons.inj htexts
      rw [hv.string hfirst, ih hrest]
      rfl

/-- **An array keeps what its items keep.** -/
theorem Kept.array {vs ws : List Value} (h : List.Forall₂ Kept vs ws) :
    Kept (.array vs) (.array ws) where
  denotes hdenotes := by
    cases hdenotes with
    | seq hes => exact .seq (hes.kept h)
    | intArray hint =>
      cases h with
      | cons hv hrest =>
        cases hrest
        rw [hv.string rfl]
        exact .intArray hint
    | appArray hes =>
      cases h with
      | cons hname hrest =>
        cases hrest with
        | cons hargs hrest =>
          cases hrest
          obtain ⟨ws, rfl, hws⟩ := hargs.args rfl hes
          rw [hname.string rfl]
          exact .appArray hws
    | appArrayAnnots annots hes =>
      cases h with
      | cons hname hrest =>
        cases hrest with
        | cons hargs hrest =>
          cases hrest with
          | cons hannots hrest =>
            cases hrest
            obtain ⟨ws, rfl, hws⟩ := hargs.args rfl hes
            rw [hname.string rfl, hannots.annots rfl]
            exact .appArrayAnnots annots hws
  string hv := nomatch hv
  args hv hes := by
    cases hv
    exact ⟨ws, rfl, hes.kept h⟩
  annots hv := by
    rw [stringValues_kept h (Value.array.inj hv)]
  intText htext := by
    unfold intText? at htext
    split at htext
    · rename_i hv
      cases hv
    · rename_i text hv
      cases hv
      cases h with
      | cons hv hrest =>
        cases hrest
        rw [hv.string rfl]
        exact htext
    · cases htext

/-- Of two members the names are the same, and of the value everything is kept. -/
def KeptMember (m n : String × Value) : Prop := m.1 = n.1 ∧ Kept m.2 n.2

theorem keptMember_cons_iff {name : String} {v : Value} {ms ns : List (String × Value)} :
    List.Forall₂ KeptMember ((name, v) :: ms) ns ↔
      ∃ w ns', Kept v w ∧ List.Forall₂ KeptMember ms ns' ∧ ns = (name, w) :: ns' := by
  rw [List.forall₂_cons_left_iff]
  refine ⟨fun h => ?_, fun h => ?_⟩
  · obtain ⟨⟨name', w⟩, ns', ⟨hname, hv⟩, hrest, hns⟩ := h
    obtain rfl : name = name' := hname
    exact ⟨w, ns', hv, hrest, hns⟩
  · obtain ⟨w, ns', hv, hrest, hns⟩ := h
    exact ⟨(name, w), ns', ⟨rfl, hv⟩, hrest, hns⟩

theorem keptMember_leaf {name text : String} {ns : List (String × Value)}
    (h : List.Forall₂ KeptMember [(name, .string text)] ns) : ns = [(name, .string text)] := by
  obtain ⟨w, ns', hv, hrest, rfl⟩ := keptMember_cons_iff.mp h
  cases hrest
  rw [hv.string rfl]

theorem DenotesArgs.kept {part ns : List (String × Value)} {es : List Expr} (h : DenotesArgs part es)
    (hns : List.Forall₂ KeptMember part ns) : DenotesArgs ns es := by
  cases h with
  | absent =>
    cases hns
    exact .absent
  | present hes =>
    obtain ⟨w, ns', hv, hrest, rfl⟩ := keptMember_cons_iff.mp hns
    cases hrest
    obtain ⟨ws, rfl, hws⟩ := hv.args rfl hes
    exact .present hws

theorem DenotesAnnots.kept {part ns : List (String × Value)} {annots : List String}
    (h : DenotesAnnots part annots) (hns : List.Forall₂ KeptMember part ns) :
    DenotesAnnots ns annots := by
  cases h with
  | absent =>
    cases hns
    exact .absent
  | present =>
    obtain ⟨w, ns', hv, hrest, rfl⟩ := keptMember_cons_iff.mp hns
    cases hrest
    rw [hv.annots rfl]
    exact .present annots

theorem intText?_object {members : List (String × Value)} {text : String}
    (h : intText? (.object members) = some text) : members = [("int", .string text)] := by
  unfold intText? at h
  split at h
  · rename_i hv
    cases hv
    cases h
    rfl
  · rename_i hv
    cases hv
  · cases h

/-- **An object keeps what the values of its members keep.** -/
theorem Kept.object {ms ns : List (String × Value)} (h : List.Forall₂ KeptMember ms ns) :
    Kept (.object ms) (.object ns) where
  denotes hdenotes := by
    cases hdenotes with
    | int hint =>
      rw [keptMember_leaf h]
      exact .int hint
    | string text =>
      rw [keptMember_leaf h]
      exact .string text
    | bytes hex =>
      rw [keptMember_leaf h]
      exact .bytes hex
    | app hargs hannots hmembers =>
      obtain ⟨std, hstd, hperm⟩ := List.perm_comp_forall₂ hmembers.symm h
      obtain ⟨w, parts, hname, hparts, rfl⟩ := keptMember_cons_iff.mp hstd
      obtain ⟨argsPart, annotsPart, hargsPart, hannotsPart, rfl⟩ := forall₂_append_inv hparts
      rw [hname.string rfl] at hperm
      exact .app (hargs.kept hargsPart) (hannots.kept hannotsPart) hperm.symm
  string hv := nomatch hv
  args hv := nomatch hv
  annots hv := nomatch hv
  intText htext := by
    rw [intText?_object htext] at h
    rw [keptMember_leaf h]
    rfl

/-- **Members in another order.** -/
theorem Kept.perm {ms ns : List (String × Value)} (h : ms.Perm ns) :
    Kept (.object ms) (.object ns) where
  denotes hdenotes := by
    cases hdenotes with
    | int hint =>
      rw [← List.singleton_perm.mp h]
      exact .int hint
    | string text =>
      rw [← List.singleton_perm.mp h]
      exact .string text
    | bytes hex =>
      rw [← List.singleton_perm.mp h]
      exact .bytes hex
    | app hargs hannots hmembers => exact .app hargs hannots (h.symm.trans hmembers)
  string hv := nomatch hv
  args hv := nomatch hv
  annots hv := nomatch hv
  intText htext := by
    rw [intText?_object htext] at h
    rw [← List.singleton_perm.mp h]
    rfl

/-! ## 3. What is kept of an outline -/

/-- Where the first outline is read, the second one is read too, and everything is kept. -/
def Follows (a b : Node) : Prop :=
  ∀ ⦃room : Nat⦄ ⦃v : Value⦄, Body.readValue room a = .ok v →
    ∃ w, Body.readValue room b = .ok w ∧ Kept v w

/-- **Members change places somewhere inside.** -/
theorem follows_of_inside {a b : Node} (h : Inside Permutes a b) : Follows a b := by
  induction h with
  | here h =>
    intro room v hread
    cases h with
    | mk hperm =>
      obtain ⟨inner, vs, rfl, rfl, hvs⟩ := Body.readValue_object_iff.mp hread
      obtain ⟨ws, hws, hperm'⟩ := List.perm_comp_forall₂ hperm.symm hvs
      exact ⟨_, Body.readValue_object_iff.mpr ⟨inner, ws, rfl, rfl, hws⟩, .perm hperm'.symm⟩
  | item before after _ ih =>
    intro room v hread
    obtain ⟨inner, vs, rfl, rfl, hvs⟩ := Body.readValue_array_iff.mp hread
    obtain ⟨before', v, after', rfl, hbefore, hv, hafter⟩ := forall₂_middle hvs
    obtain ⟨w, hw, hkept⟩ := ih hv
    refine ⟨_, Body.readValue_array_iff.mpr ⟨inner, before' ++ w :: after', rfl, rfl, ?_⟩,
      .array ?_⟩
    · exact List.rel_append hbefore (.cons hw hafter)
    · exact List.rel_append (List.forall₂_same.mpr fun x _ => .refl x)
        (.cons hkept (List.forall₂_same.mpr fun x _ => .refl x))
  | member before after key _ ih =>
    intro room v hread
    obtain ⟨inner, vs, rfl, rfl, hvs⟩ := Body.readValue_object_iff.mp hread
    obtain ⟨before', ⟨name, v⟩, after', rfl, hbefore, hv, hafter⟩ := forall₂_middle hvs
    obtain ⟨w, hw, hkept⟩ := ih hv.2
    have hsame : ∀ ms : List (String × Value), List.Forall₂ KeptMember ms ms :=
      fun ms => List.forall₂_same.mpr fun x _ => ⟨rfl, .refl x.2⟩
    refine ⟨_, Body.readValue_object_iff.mpr ⟨inner, before' ++ (name, w) :: after', rfl, rfl, ?_⟩,
      .object ?_⟩
    · exact List.rel_append hbefore (.cons ⟨hv.1, hw⟩ hafter)
    · exact List.rel_append (hsame before') (.cons ⟨rfl, hkept⟩ (hsame after'))

theorem Follows.refl (a : Node) : Follows a a := fun _ v hv => ⟨v, hv, .refl v⟩

theorem Follows.trans {a b c : Node} (h : Follows a b) (h' : Follows b c) : Follows a c := by
  intro room v hv
  obtain ⟨w, hw, hkept⟩ := h hv
  obtain ⟨x, hx, hkept'⟩ := h' hw
  exact ⟨x, hx, hkept.trans hkept'⟩

/-- The members of any objects in another order, at any depth. -/
def Reordered : Node → Node → Prop := Relation.ReflTransGen (Inside Permutes)

/-- **Any number of changes, there and back.** -/
theorem Reordered.follows {a b : Node} (h : Reordered a b) : Follows a b ∧ Follows b a := by
  induction h with
  | refl => exact ⟨.refl a, .refl a⟩
  | tail _ hstep ih =>
    have hback := follows_of_inside (hstep.symm Permutes.symm)
    exact ⟨ih.1.trans (follows_of_inside hstep), hback.trans ih.2⟩

/-! ## 4. Expressions -/

theorem ofValue_eq_of_kept {v w : Value} (h : Kept v w) (h' : Kept w v) :
    Expr.ofValue v = Expr.ofValue w := by
  have hform : ofValue? v = ofValue? w := by
    refine Option.ext fun e => ?_
    rw [ofValue?_eq_some_iff, ofValue?_eq_some_iff]
    exact ⟨h.denotes, h'.denotes⟩
  have htext : intText? v = intText? w := Option.ext fun text => ⟨h.intText, h'.intText⟩
  rw [Expr.ofValue, Expr.ofValue, hform, htext]

/-- **Whole outlines are read as the same expression, or fail in the same way, if their members differ in
    order only.** -/
theorem expr_eq_of_reordered {a b : Node} (h : Reordered a b) (ha : a.Whole) (hb : b.Whole)
    (room : Nat) : Body.expr room a = Body.expr room b := by
  obtain ⟨hab, hba⟩ := h.follows
  cases hread : Body.readValue room a with
  | ok v =>
    obtain ⟨w, hw, hkept⟩ := hab hread
    obtain ⟨v', hv', hkept'⟩ := hba hw
    obtain rfl : v = v' := Except.ok.inj (hread.symm.trans hv')
    simp only [Body.expr, hread, hw, bind, Except.bind, ofValue_eq_of_kept hkept hkept']
  | error failure =>
    have hother : Body.readValue room b = .error .malformed := by
      cases hreadb : Body.readValue room b with
      | ok w =>
        obtain ⟨v, hv, _⟩ := hba hreadb
        rw [hread] at hv
        cases hv
      | error failure' => rw [Body.readValue_error_of_whole hb hreadb]
    rw [Body.expr, Body.expr, hread, hother, Body.readValue_error_of_whole ha hread]

end Micheline

end ContractQuery
