import ContractQuery.Proofs.Body.Grammatical
import Mathlib.Data.List.Pairwise

/-!
# Records are open

A record takes its fields from an object wherever they stand there, and passes over members that it does
not declare. So a node that says more than it did, or says it in another order, is understood as before.

* `Field.Apart`, `Independent`: fields that fill different places of what was met.
* `takeMember_comm`: the step. Two members can change places. `foldlM_takeMember_perm`: the run, over
  members in any order.
* **`record_object_extend`**: a record is read as before from an object with its members in another order
  and with any members beside them that it does not declare.
* `record_object_error`: a field that cannot be read is why the record is not read.
* `Open`: the records of the responses (**`Open.decode_extend`**).
-/

namespace ContractQuery

namespace Body

open Json (ElementText Literal Members Node)

variable {α σ : Type}

/-! ## 1. Fields that do not touch each other -/

/-- Reading the field puts what the decoder says into a place of what was met, and then it is met. -/
structure Field.Fills {β : Type} (f : Field σ) (decoder : Decoder β) (put : σ → β → σ) : Prop where
  read : ∀ met room node, f.read met room node = put met <$> decoder room node
  isMet : ∀ met b, f.isMet (put met b) = true

/-- The two fields fill different places. -/
def Field.Apart (f g : Field σ) : Prop :=
  ∃ (β γ : Type) (decoder : Decoder β) (decoder' : Decoder γ) (put : σ → β → σ) (put' : σ → γ → σ),
    f.Fills decoder put ∧ g.Fills decoder' put' ∧
    (∀ met b c, put' (put met b) c = put (put' met c) b) ∧
    (∀ met c, f.isMet (put' met c) = f.isMet met) ∧ ∀ met b, g.isMet (put met b) = g.isMet met

instance : Std.Symm (Field.Apart (σ := σ)) where
  symm f g h := by
    obtain ⟨β, γ, decoder, decoder', put, put', hf, hg, hput, hfmet, hgmet⟩ := h
    exact ⟨γ, β, decoder', decoder, put', put, hg, hf, fun met c b => (hput met b c).symm, hgmet,
      hfmet⟩

/-- Fields that all fill places of their own. -/
structure Independent (fields : List (Field σ)) : Prop where
  fills : ∀ f ∈ fields, ∃ (β : Type) (decoder : Decoder β) (put : σ → β → σ), f.Fills decoder put
  apart : fields.Pairwise Field.Apart

/-- A field that was read is met. -/
theorem Field.Fills.isMet_of_read {β : Type} {f : Field σ} {decoder : Decoder β} {put : σ → β → σ}
    (h : f.Fills decoder put) {met met' : σ} {room : Nat} {node : Node}
    (hread : f.read met room node = .ok met') : f.isMet met' = true := by
  rw [h.read] at hread
  obtain ⟨b, _, rfl⟩ := map_eq_ok_iff.mp hread
  exact h.isMet met b

/-- **Two fields can be read in either order.** -/
theorem Field.Apart.comm {f g : Field σ} (h : f.Apart g) {met mid met' : σ} {room : Nat} {a b : Node}
    (hf : f.read met room a = .ok mid) (hg : g.read mid room b = .ok met') :
    ∃ mid', g.read met room b = .ok mid' ∧ f.read mid' room a = .ok met' ∧
      g.isMet mid = g.isMet met ∧ f.isMet mid' = f.isMet met := by
  obtain ⟨β, γ, decoder, decoder', put, put', hfills, hgills, hput, hfmet, hgmet⟩ := h
  rw [hfills.read] at hf
  obtain ⟨x, hx, rfl⟩ := map_eq_ok_iff.mp hf
  rw [hgills.read] at hg
  obtain ⟨y, hy, rfl⟩ := map_eq_ok_iff.mp hg
  refine ⟨put' met y, ?_, ?_, hgmet met x, hfmet met y⟩
  · rw [hgills.read, hy]
    rfl
  · rw [hfills.read, hx, hput]
    rfl

/-! ## 2. Members in any order -/

section Members

variable {fields : List (Field σ)} {room : Nat}

/-- A member of a record's object, with its key. -/
def takeMember (fields : List (Field σ)) (room : Nat) (met : σ) (m : Literal × Node) :
    Except Failure σ := do
  let name ← readLiteral m.1
  takeField fields room met name m.2

theorem eachMember_takeField (ms : List (Literal × Node)) (met : σ) :
    eachMember (takeField fields room) met (.ofList ms) = ms.foldlM (takeMember fields room) met :=
  eachMember_ofList _ ms met

/-- **One member: it is passed over, or it is a field that was not met.** -/
theorem takeMember_eq_ok_iff {met met' : σ} {m : Literal × Node} :
    takeMember fields room met m = .ok met' ↔ ∃ name, readLiteral m.1 = .ok name ∧
      ((fields.find? (·.name = name) = none ∧ skip m.2 = .ok () ∧ met' = met) ∨
        ∃ f, fields.find? (·.name = name) = some f ∧ f.isMet met = false ∧
          f.read met room m.2 = .ok met') := by
  rw [takeMember, bind_eq_ok_iff]
  refine exists_congr fun name => and_congr_right fun _ => ?_
  unfold takeField
  cases hfind : fields.find? (·.name = name) with
  | none =>
    simp only [bind_eq_ok_iff, return_eq_ok_iff, true_and, reduceCtorEq, false_and, exists_false,
      or_false]
    refine ⟨fun h => ?_, fun h => ?_⟩
    · obtain ⟨_, hskip, hmet⟩ := h
      exact ⟨hskip, hmet.symm⟩
    · exact ⟨(), h.1, h.2.symm⟩
  | some f =>
    simp only [reduceCtorEq, false_and, false_or, Option.some.injEq, exists_eq_left']
    cases hmet : f.isMet met with
    | true => simp
    | false => simp

/-- **Two members can change places.** -/
theorem takeMember_comm (hfields : Independent fields) {met mid met' : σ} {a b : Literal × Node}
    (ha : takeMember fields room met a = .ok mid) (hb : takeMember fields room mid b = .ok met') :
    ∃ mid', takeMember fields room met b = .ok mid' ∧ takeMember fields room mid' a = .ok met' := by
  simp only [takeMember_eq_ok_iff] at ha hb ⊢
  obtain ⟨name, hname, ha⟩ := ha
  obtain ⟨name', hname', hb⟩ := hb
  rcases ha with ⟨hfind, hskip, rfl⟩ | ⟨f, hfind, hmet, hread⟩
  · exact ⟨met', ⟨name', hname', hb⟩, name, hname, .inl ⟨hfind, hskip, rfl⟩⟩
  rcases hb with ⟨hfind', hskip', rfl⟩ | ⟨g, hfind', hmet', hread'⟩
  · exact ⟨met, ⟨name', hname', .inl ⟨hfind', hskip', rfl⟩⟩, name, hname,
      .inr ⟨f, hfind, hmet, hread⟩⟩
  have hf := List.mem_of_find?_eq_some hfind
  have hg := List.mem_of_find?_eq_some hfind'
  by_cases hfg : f = g
  · -- a field is not read twice
    subst hfg
    obtain ⟨β, decoder, put, hfills⟩ := hfields.fills f hf
    rw [hfills.isMet_of_read hread] at hmet'
    cases hmet'
  · have hapart : f.Apart g :=
      hfields.apart.forall hf hg hfg
    obtain ⟨mid', hg', hf', hgmet, hfmet⟩ := hapart.comm hread hread'
    exact ⟨mid', ⟨name', hname', .inr ⟨g, hfind', hgmet.symm.trans hmet', hg'⟩⟩, name, hname,
      .inr ⟨f, hfind, hfmet.trans hmet, hf'⟩⟩

/-- **All members, in any order.** -/
theorem foldlM_takeMember_perm (hfields : Independent fields) {ms ns : List (Literal × Node)}
    (hperm : ms.Perm ns) : ∀ {met met' : σ}, ms.foldlM (takeMember fields room) met = .ok met' →
      ns.foldlM (takeMember fields room) met = .ok met' := by
  induction hperm with
  | nil => exact id
  | cons m _ ih =>
    intro met met' h
    rw [List.foldlM_cons, bind_eq_ok_iff] at h ⊢
    obtain ⟨mid, hmid, h⟩ := h
    exact ⟨mid, hmid, ih h⟩
  | swap a b rest =>
    intro met met' h
    simp only [List.foldlM_cons, bind_eq_ok_iff] at h ⊢
    obtain ⟨mid, hb, next, ha, h⟩ := h
    obtain ⟨mid', ha', hb'⟩ := takeMember_comm hfields hb ha
    exact ⟨mid', ha', next, hb', h⟩
  | trans _ _ ih ih' => exact fun h => ih' (ih h)

/-- Members that are not declared change nothing. -/
theorem foldlM_takeMember_undeclared {extras : List (Literal × Node)}
    (hextras : ∀ m ∈ extras, m.2.Whole ∧
      ∃ name, readLiteral m.1 = .ok name ∧ name ∉ fields.map (·.name)) (met : σ) :
    extras.foldlM (takeMember fields room) met = .ok met := by
  induction extras with
  | nil => rfl
  | cons m rest ih =>
    obtain ⟨⟨hwhole, name, hname, hother⟩, hrest⟩ := List.forall_mem_cons.mp hextras
    have hfind : fields.find? (·.name = name) = none := by
      refine List.find?_eq_none.mpr fun f hf hfname => hother ?_
      exact List.mem_map.mpr ⟨f, hf, by simpa using hfname⟩
    rw [List.foldlM_cons, takeMember_eq_ok_iff.mpr
      ⟨name, hname, .inl ⟨hfind, skip_of_whole hwhole, rfl⟩⟩]
    exact ih hrest

/-- **A record is read as before when its members come in another order, with others beside them.** -/
theorem record_object_extend (hfields : Independent fields) {r : Record} {start : σ}
    {finish : σ → Except Failure α} {a : α} {ms ms' extras : List (Literal × Node)}
    (hread : record r fields start finish room (.object (.ofList ms)) = .ok a)
    (hperm : ms'.Perm (ms ++ extras))
    (hextras : ∀ m ∈ extras, m.2.Whole ∧
      ∃ name, readLiteral m.1 = .ok name ∧ name ∉ fields.map (·.name)) :
    record r fields start finish room (.object (.ofList ms')) = .ok a := by
  simp only [record, eachMember_takeField, bind_eq_ok_iff] at hread ⊢
  obtain ⟨inner, hinner, met, hmet, hfinish⟩ := hread
  refine ⟨inner, hinner, met, foldlM_takeMember_perm hfields hperm.symm ?_, hfinish⟩
  rw [List.foldlM_append, hmet]
  exact foldlM_takeMember_undeclared hextras met

/-- **What is wrong with the value of a field is what is wrong with the record, if the record is read with
    another value there.** -/
theorem record_object_error {r : Record} {start : σ} {finish : σ → Except Failure α} {a : α}
    {before after : List (Literal × Node)} {key : Literal} {good bad : Node} {name : String}
    {field : Field σ} {failure : Failure} (hname : readLiteral key = .ok name)
    (hfind : fields.find? (·.name = name) = some field)
    (hbad : ∀ met inner, field.read met inner bad = .error failure)
    (hread : record r fields start finish room
      (.object (.ofList (before ++ (key, good) :: after))) = .ok a) :
    record r fields start finish room (.object (.ofList (before ++ (key, bad) :: after))) =
      .error failure := by
  simp only [record, eachMember_takeField, List.foldlM_append, List.foldlM_cons, bind_eq_ok_iff] at hread
  obtain ⟨inner, hinner, _, ⟨met, hmet, _, htake, _⟩, _⟩ := hread
  have hfree : field.isMet met = false := by
    obtain ⟨name', hname', htake⟩ := takeMember_eq_ok_iff.mp htake
    obtain rfl := Except.ok.inj (hname.symm.trans hname')
    rcases htake with ⟨hnone, _⟩ | ⟨field', hfind', hmet', _⟩
    · cases hfind.symm.trans hnone
    · obtain rfl := Option.some.inj (hfind.symm.trans hfind')
      exact hmet'
  have htake : takeMember fields inner met (key, bad) = .error failure := by
    rw [takeMember, hname]
    show takeField fields inner met name bad = .error failure
    rw [takeField, hfind]
    simp only [hfree, Bool.false_eq_true, ↓reduceIte]
    exact hbad met inner
  simp only [record, eachMember_takeField, List.foldlM_append, List.foldlM_cons, hinner, hmet, htake,
    bind, Except.bind]

end Members

/-! ## 3. The records of responses -/

theorem independent_scriptFields : Independent scriptFields := by
  have hcode : scriptFields[0].Fills code fun met c => { met with code := some c } :=
    ⟨fun _ _ _ => bind_pure_comp _ _, fun _ _ => rfl⟩
  have hstorage : scriptFields[1].Fills expr fun met e => { met with storage := some e } :=
    ⟨fun _ _ _ => bind_pure_comp _ _, fun _ _ => rfl⟩
  refine ⟨fun f hf => ?_, .cons (fun g hg => ?_) (List.pairwise_singleton _ _)⟩
  · simp only [scriptFields, List.mem_cons, List.not_mem_nil, or_false] at hf
    rcases hf with rfl | rfl
    · exact ⟨_, _, _, hcode⟩
    · exact ⟨_, _, _, hstorage⟩
  · obtain rfl := List.mem_singleton.mp hg
    exact ⟨_, _, _, _, _, _, hcode, hstorage, fun _ _ _ => rfl, fun _ _ => rfl, fun _ _ => rfl⟩

theorem independent_infoFields : Independent infoFields := by
  have hkey : infoFields[0].Fills expr fun met e => { met with keyType := some e } :=
    ⟨fun _ _ _ => bind_pure_comp _ _, fun _ _ => rfl⟩
  have hvalue : infoFields[1].Fills expr fun met e => { met with valueType := some e } :=
    ⟨fun _ _ _ => bind_pure_comp _ _, fun _ _ => rfl⟩
  have htotal : infoFields[2].Fills int64 fun met n => { met with totalBytes := some n } :=
    ⟨fun _ _ _ => bind_pure_comp _ _, fun _ _ => rfl⟩
  refine ⟨fun f hf => ?_, .cons (fun g hg => ?_) (.cons (fun g hg => ?_)
    (List.pairwise_singleton _ _))⟩
  · simp only [infoFields, List.mem_cons, List.not_mem_nil, or_false] at hf
    rcases hf with rfl | rfl | rfl
    · exact ⟨_, _, _, hkey⟩
    · exact ⟨_, _, _, hvalue⟩
    · exact ⟨_, _, _, htotal⟩
  · simp only [List.mem_cons, List.not_mem_nil, or_false] at hg
    rcases hg with rfl | rfl
    · exact ⟨_, _, _, _, _, _, hkey, hvalue, fun _ _ _ => rfl, fun _ _ => rfl, fun _ _ => rfl⟩
    · exact ⟨_, _, _, _, _, _, hkey, htotal, fun _ _ _ => rfl, fun _ _ => rfl, fun _ _ => rfl⟩
  · obtain rfl := List.mem_singleton.mp hg
    exact ⟨_, _, _, _, _, _, hvalue, htotal, fun _ _ _ => rfl, fun _ _ => rfl, fun _ _ => rfl⟩

/-- The decoders of responses that are records, and the names they declare. -/
inductive Open : {α : Type} → Decoder α → List String → Prop
  | script : Open script Record.script.fields
  | bigMapInfo : Open bigMapInfo Record.bigMapInfo.fields
  | entrypoints : Open wrappedEntrypoints Record.entrypoints.fields

section Texts

variable {decoder : Decoder α} {names : List String}

/-- **The outline of an object with its members in another order, and with others beside them.** -/
theorem Open.extend (h : Open decoder names) {room : Nat} {a : α}
    {ms ms' extras : List (Literal × Node)} (hread : decoder room (.object (.ofList ms)) = .ok a)
    (hperm : ms'.Perm (ms ++ extras))
    (hextras : ∀ m ∈ extras, m.2.Whole ∧ ∃ name, readLiteral m.1 = .ok name ∧ name ∉ names) :
    decoder room (.object (.ofList ms')) = .ok a := by
  cases h with
  | script => exact record_object_extend independent_scriptFields hread hperm hextras
  | bigMapInfo => exact record_object_extend independent_infoFields hread hperm hextras
  | entrypoints =>
    refine record_object_extend ⟨fun f hf => ?_, List.pairwise_singleton _ _⟩ hread hperm hextras
    obtain rfl := List.mem_singleton.mp hf
    exact ⟨_, Body.entrypoints, fun _ types => some types, fun _ _ _ => rfl, fun _ _ => rfl⟩

theorem Open.carried (h : Open decoder names) : Carried decoder := by
  cases h with
  | script => exact .script
  | bigMapInfo => exact .bigMapInfo
  | entrypoints => exact .entrypoints

/-- **A response is read as before when its members come in another order, with any others beside
    them.** -/
theorem Open.decode_extend (h : Open decoder names) {text text' : String} {a : α}
    {ms ms' extras : List (Literal × Node)} (hread : decode decoder text = .ok a)
    (htext : ElementText text.toList (.object (.ofList ms)))
    (htext' : ElementText text'.toList (.object (.ofList ms')))
    (hperm : ms'.Perm (ms ++ extras))
    (hextras : ∀ m ∈ extras, ∃ name, readLiteral m.1 = .ok name ∧ name ∉ names) :
    decode decoder text' = .ok a := by
  rw [decode_of_elementText decoder htext] at hread
  rw [decode_of_elementText decoder htext']
  refine h.extend hread hperm fun m hm => ⟨?_, hextras m hm⟩
  have hwhole := Members.whole_ofList_iff.mp htext'.whole
  exact (hwhole m (hperm.mem_iff.mpr (List.mem_append_right _ hm))).2

end Texts

end Body

end ContractQuery
