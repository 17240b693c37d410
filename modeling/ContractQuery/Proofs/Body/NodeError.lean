import ContractQuery.Proofs.Body.Representable
import ContractQuery.Proofs.Json.Kept

/-!
# What is kept of a node error

A node error names its class and itself, and may bring any other members. These are kept under their
names, so a caller who prints no more than the message still has them at hand.

* `Takes`, `TakesAll`: one member worked in, and all of them, where it does not matter any more how
  they were written.
* `takeNodeErrorMember_eq_ok_iff`, **`eachMember_nodeError_eq_ok_iff`**: what the reader does with one
  member, and with all.
* `Given`: what the values under one of the two names come to; `takesAll_iff` says it of both names, and
  what is left to the other members.
* **`nodeError_eq_ok_iff`**: an outline is read as a node error if and only if it is an object with the
  two names once each, and the error has its details (`Details`). Of texts the same holds
  (`decode_nodeError_eq_ok_iff`).
-/

namespace ContractQuery

namespace Body

open Json (Document ElementText Keeps Members Node Number Value literalOf means_literalOf)
open NameMap (valuesOf)

/-! ## 1. One member -/

/-- A member worked into what was met: one of the two names must not have been met, and takes a string;
    every other name takes anything. -/
inductive Takes (met : NodeErrorParts) (name : String) (v : Value) : NodeErrorParts → Prop
  | kind {text : String} (hname : name = "kind") (hnone : met.kind = none) (hv : v = .string text) :
    Takes met name v { met with kind := some text }
  | id {text : String} (hname : name = "id") (hnone : met.id = none) (hv : v = .string text) :
    Takes met name v { met with id := some text }
  | other (hkind : name ≠ "kind") (hid : name ≠ "id") :
    Takes met name v { met with rest := (name, v) :: met.rest }

theorem takes_kind_iff {met met' : NodeErrorParts} {v : Value} : Takes met "kind" v met' ↔
    met.kind = none ∧ ∃ text, v = .string text ∧ met' = { met with kind := some text } := by
  refine ⟨fun h => ?_, fun ⟨hnone, text, hv, h⟩ => h ▸ .kind rfl hnone hv⟩
  cases h with
  | kind _ hnone hv => exact ⟨hnone, _, hv, rfl⟩
  | id hname => exact absurd hname (by decide)
  | other hkind => exact absurd rfl hkind

theorem takes_id_iff {met met' : NodeErrorParts} {v : Value} : Takes met "id" v met' ↔
    met.id = none ∧ ∃ text, v = .string text ∧ met' = { met with id := some text } := by
  refine ⟨fun h => ?_, fun ⟨hnone, text, hv, h⟩ => h ▸ .id rfl hnone hv⟩
  cases h with
  | kind hname => exact absurd hname (by decide)
  | id _ hnone hv => exact ⟨hnone, _, hv, rfl⟩
  | other _ hid => exact absurd rfl hid

theorem takes_other_iff {met met' : NodeErrorParts} {name : String} {v : Value}
    (hkind : name ≠ "kind") (hid : name ≠ "id") :
    Takes met name v met' ↔ met' = { met with rest := (name, v) :: met.rest } := by
  refine ⟨fun h => ?_, fun h => h ▸ .other hkind hid⟩
  cases h with
  | kind hname => exact absurd hname hkind
  | id hname => exact absurd hname hid
  | other => rfl

theorem string_eq_ok_iff {room : Nat} {node : Node} {text : String} :
    string room node = .ok text ↔ readValue room node = .ok (.string text) := by
  cases node with
  | string s => simp [string, readValue, map_eq_ok_iff]
  | array items => cases room <;> simp [string, readValue, map_eq_ok_iff]
  | object members => cases room <;> simp [string, readValue, map_eq_ok_iff]
  | _ => simp [string, readValue, map_eq_ok_iff]

/-- **One member.** -/
theorem takeNodeErrorMember_eq_ok_iff {room : Nat} {met met' : NodeErrorParts} {name : String}
    {node : Node} : takeNodeErrorMember room met name node = .ok met' ↔
      ∃ v, readValue room node = .ok v ∧ Takes met name v met' := by
  by_cases hkind : name = "kind"
  · subst hkind
    simp only [takeNodeErrorMember, ↓reduceIte, takes_kind_iff]
    cases hmet : met.kind with
    | some text => simp
    | none =>
      simp only [Option.isSome_none, Bool.false_eq_true, ↓reduceIte, bind_eq_ok_iff, return_eq_ok_iff,
        string_eq_ok_iff, true_and]
      refine ⟨fun ⟨text, htext, h⟩ => ⟨_, htext, text, rfl, h.symm⟩, fun ⟨v, hv, text, h, h'⟩ => ?_⟩
      exact ⟨text, h ▸ hv, h'.symm⟩
  rw [takeNodeErrorMember, if_neg hkind]
  by_cases hid : name = "id"
  · subst hid
    simp only [↓reduceIte, takes_id_iff]
    cases hmet : met.id with
    | some text => simp
    | none =>
      simp only [Option.isSome_none, Bool.false_eq_true, ↓reduceIte, bind_eq_ok_iff, return_eq_ok_iff,
        string_eq_ok_iff, true_and]
      refine ⟨fun ⟨text, htext, h⟩ => ⟨_, htext, text, rfl, h.symm⟩, fun ⟨v, hv, text, h, h'⟩ => ?_⟩
      exact ⟨text, h ▸ hv, h'.symm⟩
  · simp only [if_neg hid, takes_other_iff hkind hid, bind_eq_ok_iff, return_eq_ok_iff]
    exact exists_congr fun v => and_congr_right fun _ => eq_comm

/-! ## 2. All members -/

/-- The members worked in, one after the other. -/
inductive TakesAll : NodeErrorParts → List (String × Value) → NodeErrorParts → Prop
  | nil (met : NodeErrorParts) : TakesAll met [] met
  | cons {met mid met' : NodeErrorParts} {name : String} {v : Value} {rest : List (String × Value)}
    (h : Takes met name v mid) (hrest : TakesAll mid rest met') :
    TakesAll met ((name, v) :: rest) met'

/-- **All members: where they are read at all, the error is what they come to.** -/
theorem eachMember_nodeError_eq_ok_iff {room : Nat} : ∀ {members : Members}
    {met met' : NodeErrorParts}, eachMember (takeNodeErrorMember room) met members = .ok met' ↔
      ∃ ms, readMembers room members = .ok ms ∧ TakesAll met ms met'
  | .closed, met, met' => by
    refine ⟨fun h => ?_, fun h => ?_⟩
    · cases h
      exact ⟨[], rfl, .nil met⟩
    · obtain ⟨ms, hms, h⟩ := h
      cases hms
      cases h
      rfl
  | .stopped why, met, met' => by
    refine ⟨fun h => ?_, fun h => ?_⟩
    · cases h
    · obtain ⟨ms, hms, _⟩ := h
      cases hms
  | .member key node rest, met, met' => by
    rw [eachMember, bind_eq_ok_iff]
    refine ⟨fun h => ?_, fun h => ?_⟩
    · obtain ⟨name, hname, h⟩ := h
      obtain ⟨mid, hmid, h⟩ := bind_eq_ok_iff.mp h
      obtain ⟨v, hv, htakes⟩ := takeNodeErrorMember_eq_ok_iff.mp hmid
      obtain ⟨ms, hms, hall⟩ := eachMember_nodeError_eq_ok_iff.mp h
      exact ⟨(name, v) :: ms, by rw [readMembers, hname, hv, hms]; rfl, .cons htakes hall⟩
    · obtain ⟨ms, hms, h⟩ := h
      rw [readMembers] at hms
      obtain ⟨name, hname, hms⟩ := bind_eq_ok_iff.mp hms
      obtain ⟨v, hv, hms⟩ := bind_eq_ok_iff.mp hms
      obtain ⟨ms', hms', hms⟩ := bind_eq_ok_iff.mp hms
      obtain rfl := return_eq_ok_iff.mp hms
      cases h with
      | cons htakes hall =>
        exact ⟨name, hname, bind_eq_ok_iff.mpr ⟨_, takeNodeErrorMember_eq_ok_iff.mpr ⟨v, hv, htakes⟩,
          eachMember_nodeError_eq_ok_iff.mpr ⟨ms', hms', hall⟩⟩⟩

/-- The values under a name made `after` of what was there `before`: there were none, or there was one
    string, and nothing before it. -/
inductive Given : Option String → List Value → Option String → Prop
  | none (before : Option String) : Given before [] before
  | once (text : String) : Given .none [.string text] (some text)

theorem given_cons_iff {before after : Option String} {v : Value} {rest : List Value} :
    Given before (v :: rest) after ↔
      ∃ text, v = .string text ∧ before = .none ∧ Given (some text) rest after := by
  refine ⟨fun h => ?_, fun ⟨text, hv, hbefore, h⟩ => ?_⟩
  · cases h with
    | once text => exact ⟨text, rfl, rfl, .none _⟩
  · subst hv hbefore
    cases h with
    | none => exact .once text

/-- The members that are neither of the two. -/
def others (members : List (String × Value)) : List (String × Value) :=
  members.filter fun m => m.1 ≠ "kind" ∧ m.1 ≠ "id"

theorem others_cons_of_eq {name : String} (h : name = "kind" ∨ name = "id") (v : Value)
    (rest : List (String × Value)) : others ((name, v) :: rest) = others rest := by
  rcases h with h | h <;> simp [others, h]

theorem others_cons_of_ne {name : String} (hkind : name ≠ "kind") (hid : name ≠ "id") (v : Value)
    (rest : List (String × Value)) : others ((name, v) :: rest) = (name, v) :: others rest := by
  simp [others, hkind, hid]

/-- **The two names and the others do not touch each other.** -/
theorem takesAll_iff {members : List (String × Value)} : ∀ {met met' : NodeErrorParts},
    TakesAll met members met' ↔ Given met.kind (valuesOf "kind" members) met'.kind ∧
      Given met.id (valuesOf "id" members) met'.id ∧
      met'.rest = (others members).reverse ++ met.rest := by
  induction members with
  | nil =>
    intro met met'
    refine ⟨fun h => ?_, fun ⟨hkind, hid, hrest⟩ => ?_⟩
    · cases h
      exact ⟨.none _, .none _, rfl⟩
    · obtain ⟨kind, id, rest⟩ := met
      obtain ⟨kind', id', rest'⟩ := met'
      cases hkind
      cases hid
      cases hrest
      exact .nil _
  | cons m ms ih =>
    intro met met'
    obtain ⟨name, v⟩ := m
    have hsplit : TakesAll met ((name, v) :: ms) met' ↔
        ∃ mid, Takes met name v mid ∧ TakesAll mid ms met' := by
      refine ⟨fun h => ?_, fun ⟨mid, hmid, h⟩ => .cons hmid h⟩
      cases h with
      | cons hmid h => exact ⟨_, hmid, h⟩
    rw [hsplit]
    by_cases hkind : name = "kind"
    · subst hkind
      simp only [takes_kind_iff, NameMap.valuesOf_cons_self, given_cons_iff,
        NameMap.valuesOf_cons_of_ne (show "kind" ≠ "id" by decide), others_cons_of_eq (.inl rfl)]
      refine ⟨fun ⟨mid, ⟨hnone, text, hv, hmid⟩, h⟩ => ?_,
        fun ⟨⟨text, hv, hnone, hkind⟩, hid, hrest⟩ => ?_⟩
      · subst hmid
        obtain ⟨hkind, hid, hrest⟩ := ih.mp h
        exact ⟨⟨text, hv, hnone, hkind⟩, hid, hrest⟩
      · exact ⟨_, ⟨hnone, text, hv, rfl⟩, ih.mpr ⟨hkind, hid, hrest⟩⟩
    rw [NameMap.valuesOf_cons_of_ne hkind]
    by_cases hid : name = "id"
    · subst hid
      simp only [takes_id_iff, NameMap.valuesOf_cons_self, given_cons_iff, others_cons_of_eq (.inr rfl)]
      refine ⟨fun ⟨mid, ⟨hnone, text, hv, hmid⟩, h⟩ => ?_,
        fun ⟨hkind, ⟨text, hv, hnone, hid⟩, hrest⟩ => ?_⟩
      · subst hmid
        obtain ⟨hkind, hid, hrest⟩ := ih.mp h
        exact ⟨hkind, ⟨text, hv, hnone, hid⟩, hrest⟩
      · exact ⟨_, ⟨hnone, text, hv, rfl⟩, ih.mpr ⟨hkind, hid, hrest⟩⟩
    · simp only [takes_other_iff hkind hid, exists_eq_left, ih, NameMap.valuesOf_cons_of_ne hid,
        others_cons_of_ne hkind hid, List.reverse_cons, List.append_assoc, List.cons_append,
        List.nil_append]

/-! ## 3. The error -/

/-- The error has the details of the members: class and name are given once each, and under every other
    name the last value that was given is kept, whole. -/
structure Details (members : List (String × Value)) (e : NodeError) : Prop where
  kind : valuesOf "kind" members = [.string e.kind]
  id : valuesOf "id" members = [.string e.id]
  rest : ∀ name, Option.Rel Keeps
    (if name = "kind" ∨ name = "id" then none else (valuesOf name members).getLast?)
    (e.rest.get? name)

theorem valuesOf_others (name : String) (members : List (String × Value)) :
    valuesOf name (others members) =
      if name = "kind" ∨ name = "id" then [] else valuesOf name members := by
  rw [valuesOf, others, List.filter_filter]
  by_cases h : name = "kind" ∨ name = "id"
  · rw [if_pos h, List.map_eq_nil_iff, List.filter_eq_nil_iff]
    intro m _ hm
    simp only [Bool.and_eq_true, decide_eq_true_eq] at hm
    obtain ⟨hname, hkind, hid⟩ := hm
    rw [hname] at hkind hid
    exact h.elim hkind hid
  · rw [if_neg h, valuesOf]
    refine congrArg (List.map Prod.snd) (List.filter_congr fun m _ => ?_)
    by_cases hname : m.1 = name
    · simpa [hname] using not_or.mp h
    · simp [hname]

theorem getLast?_valuesOf_others (name : String) (members : List (String × Value)) :
    (valuesOf name (others members)).getLast? =
      if name = "kind" ∨ name = "id" then none else (valuesOf name members).getLast? := by
  rw [valuesOf_others]
  split_ifs <;> rfl

theorem given_none_some_iff {values : List Value} {text : String} :
    Given none values (some text) ↔ values = [.string text] := by
  refine ⟨fun h => ?_, fun h => ?_⟩
  · cases h
    rfl
  · rw [h]
    exact .once text

theorem finish_eq_ok_iff {met : NodeErrorParts} {e : NodeError} : met.finish = .ok e ↔
    met.kind = some e.kind ∧ met.id = some e.id ∧
      e.rest = NameMap.ofMembers (met.rest.reverse.map fun m => (m.1, m.2.sorted)) := by
  obtain ⟨kind, id, rest⟩ := e
  simp only [NodeErrorParts.finish, bind_eq_ok_iff, required_eq_ok_iff, return_eq_ok_iff,
    NodeError.mk.injEq]
  refine ⟨fun ⟨kind', hkind, id', hid, hk, hi, hr⟩ => ?_, fun ⟨hkind, hid, hrest⟩ =>
    ⟨kind, hkind, id, hid, rfl, rfl, hrest.symm⟩⟩
  subst hk hi
  exact ⟨hkind, hid, hr.symm⟩

/-- What all members come to is an error with their details. -/
theorem takesAll_finish_iff {members : List (String × Value)} {e : NodeError} :
    (∃ met, TakesAll ⟨none, none, []⟩ members met ∧ met.finish = .ok e) ↔ Details members e := by
  have hrest : (∀ name, Option.Rel Keeps
      (if name = "kind" ∨ name = "id" then none else (valuesOf name members).getLast?)
      (e.rest.get? name)) ↔
      e.rest = NameMap.ofMembers ((others members).map fun m => (m.1, m.2.sorted)) := by
    have hget : ∀ name, (NameMap.ofMembers ((others members).map fun m => (m.1, m.2.sorted))).get?
        name = (valuesOf name (others members)).getLast?.map Value.sorted := by
      intro name
      rw [NameMap.get?_ofMembers, NameMap.valuesOf_map, List.getLast?_map]
    simp only [← getLast?_valuesOf_others, Json.rel_keeps_iff]
    refine ⟨fun h => NameMap.eq_of_get? fun name => (h name).trans (hget name).symm, fun h name => ?_⟩
    rw [h]
    exact hget name
  refine ⟨fun ⟨met, htakes, hfinish⟩ => ?_, fun h => ?_⟩
  · obtain ⟨hkind, hid, hmet⟩ := takesAll_iff.mp htakes
    obtain ⟨hk, hi, hr⟩ := finish_eq_ok_iff.mp hfinish
    rw [hk] at hkind
    rw [hi] at hid
    rw [hmet, List.append_nil, List.reverse_reverse] at hr
    exact ⟨given_none_some_iff.mp hkind, given_none_some_iff.mp hid, hrest.mpr hr⟩
  · refine ⟨⟨some e.kind, some e.id, (others members).reverse⟩, ?_, ?_⟩
    · refine takesAll_iff.mpr ⟨given_none_some_iff.mpr h.kind, given_none_some_iff.mpr h.id, ?_⟩
      exact (List.append_nil _).symm
    · refine finish_eq_ok_iff.mpr ⟨rfl, rfl, ?_⟩
      rw [List.reverse_reverse]
      exact hrest.mp h.rest

/-- **An outline is read as a node error if and only if it is an object with the two names once each, and
    nothing of it is lost.** -/
theorem nodeError_eq_ok_iff {room : Nat} {node : Node} {e : NodeError} :
    nodeError room node = .ok e ↔
      ∃ members, readValue room node = .ok (.object members) ∧ Details members e := by
  cases node with
  | object members =>
    cases room with
    | zero => simp [nodeError, enter, readValue, bind_eq_ok_iff]
    | succ room =>
      simp only [nodeError, enter, readValue, bind_eq_ok_iff, map_eq_ok_iff, Except.ok.injEq,
        exists_eq_left', eachMember_nodeError_eq_ok_iff, Value.object.injEq, exists_eq_right]
      refine ⟨fun h => ?_, fun h => ?_⟩
      · obtain ⟨met, ⟨ms, hms, htakes⟩, hfinish⟩ := h
        exact ⟨ms, hms, takesAll_finish_iff.mp ⟨met, htakes, hfinish⟩⟩
      · obtain ⟨ms, hms, hdetails⟩ := h
        obtain ⟨met, htakes, hfinish⟩ := takesAll_finish_iff.mpr hdetails
        exact ⟨met, ⟨ms, hms, htakes⟩, hfinish⟩
  | array items => cases room <;> simp [nodeError, readValue, map_eq_ok_iff]
  | _ => simp [nodeError, readValue, map_eq_ok_iff]

/-! ## 4. Texts -/

theorem decode_nodeError_eq_ok_iff {text : String} {e : NodeError} :
    decode nodeError text = .ok e ↔
      ∃ members, decode readValue text = .ok (.object members) ∧ Details members e := by
  simp only [decode_eq_ok_iff, nodeError_eq_ok_iff]
  refine ⟨fun ⟨⟨ms, hms, h⟩, hend⟩ => ⟨ms, ⟨hms, hend⟩, h⟩, fun ⟨ms, ⟨hms, hend⟩, h⟩ => ?_⟩
  exact ⟨⟨ms, hms, h⟩, hend⟩

/-- Every object with the two names has an error with its details. -/
theorem exists_details {members : List (String × Value)} {kind id : String}
    (hkind : valuesOf "kind" members = [.string kind])
    (hid : valuesOf "id" members = [.string id]) : ∃ e, Details members e := by
  have htakes : TakesAll ⟨none, none, []⟩ members
      ⟨some kind, some id, (others members).reverse⟩ :=
    takesAll_iff.mpr ⟨given_none_some_iff.mpr hkind, given_none_some_iff.mpr hid,
      (List.append_nil _).symm⟩
  exact ⟨⟨kind, id, _⟩, takesAll_finish_iff.mp ⟨_, htakes, finish_eq_ok_iff.mpr ⟨rfl, rfl, rfl⟩⟩⟩

/-- **An object is a node error if and only if it has just one member `kind` and just one member `id`,
    and both are strings; the error then has all the other members, of each name the last one. What is no
    object is no node error, and if it is JSON at all, that is what the failure says. An object is read if
    and only if it says its members and is not too deep, and it says them if it is within the limits.** -/
theorem nodeError_keeps_details :
    (∀ {text : String} {members : List (String × Value)},
      decode readValue text = .ok (.object members) →
      ((∃ e, decode nodeError text = .ok e) ↔
        (∃ kind, valuesOf "kind" members = [.string kind]) ∧
          ∃ id, valuesOf "id" members = [.string id]) ∧
      ∀ e, decode nodeError text = .ok e → Details members e) ∧
    (∀ {text : String}, (∀ members, decode readValue text ≠ .ok (.object members)) →
      ∃ failure, decode nodeError text = .error failure) ∧
    (∀ {text : String}, (∀ members, (Document.ofText text).root ≠ .object members) →
      decode nodeError text =
        .error (wrongType (.record .nodeError) (Document.ofText text).root)) ∧
    (∀ {text : String} {members : List (String × Value)},
      decode readValue text = .ok (.object members) ↔
        ∃ node, ElementText text.toList node ∧ node.Says (.object members) ∧ node.depth ≤ deepest) ∧
    (∀ {text : String} {members : Members},
      WithinLimits Number.largestRead text (.object members) →
        ∃ ms, members.Say ms ∧ decode readValue text = .ok (.object ms)) := by
  refine ⟨fun {text members} hread => ?_, fun {text} hno => ?_, fun {text} hno => ?_,
    decode_readValue_eq_ok_iff, fun hlimits => ?_⟩
  · have hdetails : ∀ e, decode nodeError text = .ok e ↔ Details members e := by
      intro e
      rw [decode_nodeError_eq_ok_iff, hread]
      simp
    simp only [hdetails]
    refine ⟨⟨fun ⟨e, he⟩ => ⟨⟨e.kind, he.kind⟩, e.id, he.id⟩, fun ⟨⟨kind, hkind⟩, id, hid⟩ => ?_⟩,
      fun e he => he⟩
    exact exists_details hkind hid
  · cases h : decode nodeError text with
    | error failure => exact ⟨failure, rfl⟩
    | ok e =>
      obtain ⟨members, hmembers, _⟩ := decode_nodeError_eq_ok_iff.mp h
      exact absurd hmembers (hno members)
  · rw [decode]
    generalize (Document.ofText text).root = root at hno
    cases root with
    | object members => exact absurd rfl (hno members)
    | _ => rfl
  · obtain ⟨v, hsaid, hread⟩ := hlimits.exists_says
    cases hsaid with
    | object hsay => exact ⟨_, hsay, hread⟩

/-- An error with a repeated member, and the same without its name, in an array. Of the member the last
    value is kept, and of an object in it the last member of each name; the items of an array all stay in
    their places. And an object with a number in it. -/
theorem nodeError_repeated_member :
    let text := "\x7b\"with\":\"a\",\"id\":\"x\",\"with\":\x7b\"b\":true,\"a\":null," ++
      "\"b\":[\"z\",\x7b\"d\":false,\"c\":\"y\",\"d\":true\x7d,\"y\"]\x7d,\"kind\":\"temporary\"\x7d"
    let detail : Value := .object [("b", .bool true), ("a", .null), ("b", .array [.string "z",
      .object [("d", .bool false), ("c", .string "y"), ("d", .bool true)], .string "y"])]
    let members : List (String × Value) :=
      [("with", .string "a"), ("id", .string "x"), ("with", detail), ("kind", .string "temporary")]
    let array := "[\"temporary\",\"x\"]"
    let measured := "\x7b\"at\":-2.5E+3\x7d"
    let number := ['-', '2', '.', '5', 'E', '+', '3']
    decode readValue text = .ok (.object members) ∧
    (∃ e, decode nodeError text = .ok e ∧ e.kind = "temporary" ∧ e.id = "x" ∧
      e.rest.get? "with" = some (.object [("a", .null), ("b", .array [.string "z",
        .object [("c", .string "y"), ("d", .bool true)], .string "y"])]) ∧
      e.rest.get? "id" = none) ∧
    decode nodeError array = .error (wrongType (.record .nodeError) (Document.ofText array).root) ∧
    (∃ failure, decode nodeError array = .error failure) ∧
    WithinLimits Number.largestRead measured (.object (.ofList [(literalOf "at", .number number)])) ∧
    ∃ n, Number.ofText number = some n ∧
      decode readValue measured = .ok (.object [("at", .number n)]) := by
  intro text detail members array measured number
  have hread : decode readValue text = .ok (.object members) := by
    have htext : text = (Value.object members).text := by decide +kernel
    rw [htext]
    refine decode_readValue_text (.object ?_) (by decide +kernel)
    have hdetail : detail.NumberFree := by
      refine .object ?_
      have hobject : Value.NumberFree
          (.object [("d", .bool false), ("c", .string "y"), ("d", .bool true)]) :=
        .object (by simpa using ⟨.bool _, .string _, .bool _⟩)
      have hitems : Value.NumberFree (.array [.string "z",
          .object [("d", .bool false), ("c", .string "y"), ("d", .bool true)], .string "y"]) :=
        .array (by simpa using ⟨.string _, hobject, .string _⟩)
      simpa using ⟨.bool _, .null, hitems⟩
    simpa [members] using ⟨.string _, .string _, hdetail, .string _⟩
  have harray : Document.ofText array = ⟨(Value.array [.string "temporary", .string "x"]).outline,
      false⟩ := by
    have htext : array = (Value.array [.string "temporary", .string "x"]).text := by decide +kernel
    rw [htext]
    exact Json.ofText_text (.array (by simpa using ⟨.string _, .string _⟩))
  have hroot : ∀ ms, (Document.ofText array).root ≠ .object ms := by
    rw [harray]
    nofun
  have hno : ∀ ms, decode readValue array ≠ .ok (.object ms) := by
    intro ms h
    have hvalue := (decode_eq_ok_iff.mp h).1
    rw [harray] at hvalue
    obtain ⟨items, _, hitems⟩ := map_eq_ok_iff.mp hvalue
    cases hitems
  obtain ⟨hiff, hdetails⟩ := nodeError_keeps_details.1 hread
  obtain ⟨e, he⟩ := hiff.mpr ⟨⟨"temporary", rfl⟩, "x", rfl⟩
  have hd := hdetails e he
  have hlimits : WithinLimits Number.largestRead measured
      (.object (.ofList [(literalOf "at", .number number)])) := by
    have hsize : Json.HasSize number ((2 + 5 / 10 ^ 1) * 10 ^ (3 : Int)) :=
      .negative (.mk (@Json.WholeText.digits '2' [] (by decide) (List.forall_mem_singleton.mpr rfl))
        (@Json.FractionSays.digits ['5'] (List.forall_mem_singleton.mpr rfl))
        (@Json.ExponentSays.plus 'E' ['3'] (.inr rfl) (List.forall_mem_singleton.mpr rfl)))
    have hle : ((2 : ℚ) + 5 / 10 ^ 1) * 10 ^ (3 : Int) ≤ Number.largestRead :=
      le_trans (by norm_num) Number.two_pow_le_largestRead
    have hdocument : Document.ofText measured =
        ⟨.object (.ofList [(literalOf "at", .number number)]), false⟩ := by
      simp only [measured, number]
      rfl
    exact ⟨Json.elementText_iff.mpr ⟨hdocument, rfl, trivial, trivial⟩,
      ⟨⟨"at", means_literalOf "at"⟩, fun _ h => Number.size_unique hsize h ▸ hle, trivial⟩, by decide⟩
  have hmeasured : ∃ n, Number.ofText number = some n ∧
      decode readValue measured = .ok (.object [("at", .number n)]) := by
    obtain ⟨ms, hsay, hms⟩ := nodeError_keeps_details.2.2.2.2 hlimits
    cases hsay with
    | member hkey hvalue hrest =>
      cases hrest
      cases hvalue with
      | number hnumber =>
        have hname := (readLiteral_of_means hkey).symm.trans (readLiteral_of_means (means_literalOf "at"))
        rw [Except.ok.inj hname] at hms
        exact ⟨_, hnumber, hms⟩
  refine ⟨hread, ⟨e, he, ?_, ?_, ?_, ?_⟩, nodeError_keeps_details.2.2.1 hroot,
    nodeError_keeps_details.2.1 hno, hlimits, hmeasured⟩
  · have hkind := hd.kind
    simp [members, valuesOf] at hkind
    exact hkind.symm
  · have hid := hd.id
    simp [members, valuesOf] at hid
    exact hid.symm
  · have hwith := Json.rel_keeps_iff.mp (hd.rest "with")
    rw [hwith]
    rfl
  · have hid := Json.rel_keeps_iff.mp (hd.rest "id")
    rw [hid]
    rfl

/-- A number may be less than the largest double and still not be read, for it is rounded more than once on
    the way. An object with such a number is no node error, although it has the two names once each, and
    both are strings. -/
theorem nodeError_not_read_below_largest :
    let number := "17976931348623157081e289".toList
    let text := "\x7b\"kind\":\"temporary\",\"id\":\"x\",\"at\":17976931348623157081e289\x7d"
    let members := [("kind", Node.string (literalOf "temporary")), ("id", .string (literalOf "x")),
      ("at", .number number)]
    WithinLimits Binary64.largest text (.object (.ofList (members.map fun m => (literalOf m.1, m.2)))) ∧
    valuesOf "kind" members = [.string (literalOf "temporary")] ∧
    valuesOf "id" members = [.string (literalOf "x")] ∧
    ¬ ∃ e, decode nodeError text = .ok e := by
  intro number text members
  have hsize : Json.HasSize number ((17976931348623157081 + 0) * 10 ^ (289 : Int)) :=
    .unsigned (.mk (@Json.WholeText.digits '1' "7976931348623157081".toList (by decide)
        (List.all_eq_true.mp rfl)) .absent
      (@Json.ExponentSays.plain 'e' ['2', '8', '9'] (.inl rfl) (List.all_eq_true.mp rfl)))
  have hle : ((17976931348623157081 : ℚ) + 0) * 10 ^ (289 : Int) ≤ Binary64.largest := by
    have hnat : 17976931348623157081 * 10 ^ 289 ≤ 9007199254740991 * 2 ^ 971 := by decide +kernel
    have hcast : (17976931348623157081 : ℚ) * 10 ^ 289 ≤ 9007199254740991 * 2 ^ 971 := by
      exact_mod_cast hnat
    have hmantissa : (2 : ℚ) ^ 53 - 1 = 9007199254740991 := by norm_num
    rw [add_zero, Binary64.largest, hmantissa]
    exact hcast
  have hdocument : Document.ofText text =
      ⟨.object (.ofList (members.map fun m => (literalOf m.1, m.2))), false⟩ := by
    simp only [text, members, number, List.map_cons, List.map_nil]
    rfl
  have hgrammar : ElementText text.toList
      (.object (.ofList (members.map fun m => (literalOf m.1, m.2)))) :=
    Json.elementText_iff.mpr ⟨hdocument, by
      simp [members, Members.ofList, Node.Whole, Members.Whole, literalOf]⟩
  refine ⟨⟨hgrammar, ?_, by decide⟩, rfl, rfl, fun h => ?_⟩
  · exact ⟨⟨_, means_literalOf _⟩, ⟨_, means_literalOf _⟩, ⟨_, means_literalOf _⟩,
      ⟨_, means_literalOf _⟩, ⟨_, means_literalOf _⟩,
      fun _ h => Number.size_unique hsize h ▸ hle, trivial⟩
  · obtain ⟨e, he⟩ := h
    have hnone : Number.ofText number = none := by decide +kernel
    obtain ⟨ms, hread, -⟩ := decode_nodeError_eq_ok_iff.mp he
    rw [decode_of_elementText readValue hgrammar] at hread
    cases (ElementText.says_of_read hgrammar hread).1 with
    | object hsay =>
      obtain ⟨v, hsaid⟩ := hsay.exists_says (literalOf "at", .number number) (by simp [members])
      cases hsaid with
      | number hsome => exact absurd (hnone.symm.trans hsome) (Option.some_ne_none _).symm

end Body

end ContractQuery
