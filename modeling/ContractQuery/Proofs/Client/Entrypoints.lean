import ContractQuery.Proofs.Body.Lists
import ContractQuery.Proofs.Body.Open
import ContractQuery.Proofs.Body.Strings
import ContractQuery.Proofs.Client.Session
import ContractQuery.Proofs.Micheline.Readable
import ContractQuery.Proofs.NameMap
import ContractQuery.Proofs.Text.ByteOrder

/-!
# Entrypoints, member by member

The node sends the entrypoints of a contract as an object in a wrapper. Its members are put in a map one
after the other, so of a name that was sent twice the later type stays. But every type has to be readable,
also one that is put away again.

* `EntrypointsText`: a text that is a wrapper, and the members of the object in it.
* `foldlM_insert`: members that are read and put in are the members that were read, put in.
* `wrappedEntrypoints_object`: of the wrapper only its field counts.
* **`decode_entrypoints`**: what such a text is decoded as.
* **`answered_iff_readable`**: what the call comes to, and which entries there are.
-/

namespace ContractQuery

namespace Body

open Json (ElementText Literal Node nesting)
open Micheline (Expr)

variable {α β ε : Type}

/-! ## 1. Members read and put in -/

/-- Reading and putting in by turns is reading all and then putting all in. -/
theorem foldlM_insert (read : β → Except ε α) (members : List (String × β)) (met : NameMap α) :
    members.foldlM (fun met m => met.insert m.1 <$> read m.2) met =
      (fun vs => vs.foldl (fun met v => met.insert v.1 v.2) met) <$>
        members.mapM fun m => Prod.mk m.1 <$> read m.2 := by
  induction members generalizing met with
  | nil => rfl
  | cons m rest ih =>
    rw [List.foldlM_cons, List.mapM_cons]
    cases read m.2 with
    | error e => rfl
    | ok a =>
      refine (ih (met.insert m.1 a)).trans ?_
      cases rest.mapM fun m => Prod.mk m.1 <$> read m.2 with
      | error e => rfl
      | ok vs => rfl

/-- The member is written with a key that means its name. -/
def WrittenAs (written : Literal × Node) (m : String × Node) : Prop :=
  written.1.Means m.1 ∧ written.2 = m.2

/-- **A map is read from its members one after the other, and of a name the last one stays.** -/
theorem map_object (decoder : Decoder α) (room : Nat) {written : List (Literal × Node)}
    {members : List (String × Node)} (h : List.Forall₂ WrittenAs written members) :
    map decoder (room + 1) (.object (.ofList written)) =
      NameMap.ofMembers <$> members.mapM fun m => Prod.mk m.1 <$> decoder room m.2 := by
  have hfold : ∀ met : NameMap α,
      written.foldlM (fun met m => do
        let name ← readLiteral m.1
        met.insert name <$> decoder room m.2) met =
      members.foldlM (fun met m => met.insert m.1 <$> decoder room m.2) met := by
    induction h with
    | nil => exact fun _ => rfl
    | @cons w m _ _ hm _ ih =>
      intro met
      rw [List.foldlM_cons, List.foldlM_cons, readLiteral_of_means hm.1, hm.2]
      exact bind_congr ih
  show eachMember (fun (met : NameMap α) name node => met.insert name <$> decoder room node) .empty
    (.ofList written) = _
  rw [eachMember_ofList]
  exact (hfold .empty).trans (foldlM_insert (decoder room) members .empty)

/-! ## 2. The wrapper -/

/-- The members that may stand beside the field of the wrapper. -/
def Beside (m : Literal × Node) : Prop := ∃ name, m.1.Means name ∧ name ≠ "entrypoints"

/-- **The wrapper is read as its field, one level further inside.** -/
theorem wrappedEntrypoints_object (room : Nat) {before after : List (Literal × Node)} {key : Literal}
    {field : Node} (hkey : key.Means "entrypoints") (hbeside : ∀ m ∈ before ++ after, Beside m)
    (hwhole : ∀ m ∈ before ++ after, m.2.Whole) :
    wrappedEntrypoints (room + 1) (.object (.ofList (before ++ (key, field) :: after))) =
      entrypoints room field := by
  let fields : List (Field (Option (NameMap Expr))) :=
    [⟨"entrypoints", Option.isSome, fun _ room node => some <$> entrypoints room node⟩]
  have hskipped : ∀ {ms : List (Literal × Node)}, (∀ m ∈ ms, m ∈ before ++ after) →
      ∀ met, ms.foldlM (takeMember fields room) met = .ok met := by
    intro ms hms
    refine foldlM_takeMember_undeclared fun m hm => ⟨hwhole m (hms m hm), ?_⟩
    obtain ⟨name, hname, hother⟩ := hbeside m (hms m hm)
    exact ⟨name, readLiteral_of_means hname, by simpa [fields] using hother⟩
  have hfield : takeMember fields room none (key, field) = some <$> entrypoints room field := by
    rw [takeMember, readLiteral_of_means hkey]
    rfl
  show (do required "entrypoints" (← eachMember (takeField fields room) none
    (.ofList (before ++ (key, field) :: after)))) = _
  rw [eachMember_takeField, List.foldlM_append, hskipped fun m hm => List.mem_append_left _ hm]
  show (do required "entrypoints" (← ((key, field) :: after).foldlM (takeMember fields room) none)) = _
  rw [List.foldlM_cons, hfield]
  cases entrypoints room field with
  | error failure => rfl
  | ok types =>
    show (do required "entrypoints" (← after.foldlM (takeMember fields room) (some types))) = _
    rw [hskipped fun m hm => List.mem_append_right _ hm]
    rfl

/-! ## 3. Texts -/

/-- The text is a wrapper with one field, which holds an object with these members. -/
def EntrypointsText (text : String) (members : List (String × Node)) : Prop :=
  ∃ before key written after,
    ElementText text.toList (.object (.ofList (before ++ (key, .object (.ofList written)) :: after))) ∧
    key.Means "entrypoints" ∧ (∀ m ∈ before ++ after, Beside m) ∧
    List.Forall₂ WrittenAs written members

/-- **Entrypoints are decoded type by type, each as it would be alone.** -/
theorem decode_entrypoints {text : String} {members : List (String × Node)}
    (h : EntrypointsText text members) (hnesting : nesting text ≤ deepest) :
    decode wrappedEntrypoints text =
      NameMap.ofMembers <$> members.mapM fun m => Prod.mk m.1 <$> expr deepest m.2 := by
  obtain ⟨before, key, written, after, hgrammar, hkey, hbeside, hwritten⟩ := h
  have hwhole : ∀ m ∈ before ++ after, m.2.Whole := by
    intro m hm
    refine (Json.Members.whole_ofList_iff.mp hgrammar.whole m ?_).2
    rcases List.mem_append.mp hm with hm | hm
    · exact List.mem_append_left _ hm
    · exact List.mem_append_right _ (List.mem_cons_of_mem _ hm)
  have hdepth : ∀ m ∈ members, m.2.depth ≤ 125 := by
    rw [nesting, Json.ofText_of_elementText hgrammar] at hnesting
    have hwrapper := Json.Members.depth_ofList_le_iff.mp (Nat.le_of_succ_le_succ hnesting)
    have hfield := Nat.le_of_succ_le_succ (hwrapper (key, .object (.ofList written)) (by simp))
    intro m hm
    obtain ⟨front, back, rfl⟩ := List.append_of_mem hm
    obtain ⟨front', w, back', rfl, _, hwm, _⟩ := forall₂_middle hwritten.flip
    rw [← hwm.2]
    exact Json.Members.depth_ofList_le_iff.mp hfield w (by simp)
  have halone : (members.mapM fun m => Prod.mk m.1 <$> expr 125 m.2) =
      members.mapM fun m => Prod.mk m.1 <$> expr deepest m.2 := by
    refine mapM_eq_of_forall₂ (List.forall₂_same.mpr fun m hm => ?_)
    have hm' := hdepth m hm
    have hroom : m.2.depth ≤ deepest := Nat.le_trans hm' (by decide)
    rw [expr_room hm' hroom]
  rw [decode_of_elementText _ hgrammar, ← halone]
  exact (wrappedEntrypoints_object 126 hkey hbeside hwhole).trans (map_object expr 125 hwritten)

/-- The member is read as the entry. -/
def ReadsEntry (m : String × Node) (entry : String × Expr) : Prop :=
  entry.1 = m.1 ∧ expr deepest m.2 = .ok entry.2

theorem decode_entrypoints_eq_ok_iff {text : String} {members : List (String × Node)}
    (h : EntrypointsText text members) (hnesting : nesting text ≤ deepest) {types : NameMap Expr} :
    decode wrappedEntrypoints text = .ok types ↔
      ∃ entries, List.Forall₂ ReadsEntry members entries ∧ NameMap.ofMembers entries = types := by
  have hread : ∀ m entry, Prod.mk m.1 <$> expr deepest m.2 = .ok entry ↔ ReadsEntry m entry := by
    intro m entry
    rw [map_eq_ok_iff]
    constructor
    · rintro ⟨e, he, rfl⟩
      exact ⟨rfl, he⟩
    · intro hm
      exact ⟨entry.2, hm.2, by rw [← hm.1]⟩
  rw [decode_entrypoints h hnesting, map_eq_ok_iff]
  simp only [mapM_eq_ok_iff, hread]

theorem exists_decode_entrypoints_iff {text : String} {members : List (String × Node)}
    (h : EntrypointsText text members) (hnesting : nesting text ≤ deepest) :
    (∃ types, decode wrappedEntrypoints text = .ok types) ↔
      ∀ m ∈ members, ∃ e, expr deepest m.2 = .ok e := by
  have hreads : (∃ entries, List.Forall₂ ReadsEntry members entries) ↔
      ∀ m ∈ members, ∃ entry, ReadsEntry m entry := exists_forall₂_iff
  simp only [decode_entrypoints_eq_ok_iff h hnesting]
  constructor
  · intro ⟨_, entries, hentries, _⟩ m hm
    obtain ⟨entry, hentry⟩ := hreads.mp ⟨entries, hentries⟩ m hm
    exact ⟨entry.2, hentry.2⟩
  · intro hall
    have heach : ∀ m ∈ members, ∃ entry, ReadsEntry m entry := by
      intro m hm
      obtain ⟨e, he⟩ := hall m hm
      exact ⟨(m.1, e), rfl, he⟩
    obtain ⟨entries, hentries⟩ := hreads.mpr heach
    exact ⟨_, entries, hentries, rfl⟩

/-- Entries have the names of the members they were read from. -/
theorem names_of_readsEntry {members : List (String × Node)} {entries : List (String × Expr)}
    (h : List.Forall₂ ReadsEntry members entries) : entries.map Prod.fst = members.map Prod.fst := by
  induction h with
  | nil => rfl
  | cons hm _ ih => rw [List.map_cons, List.map_cons, hm.1, ih]

/-- **The entries that members leave: under each name what its last member is read as.** -/
theorem mem_entries_iff_last {members : List (String × Node)} {entries : List (String × Expr)}
    (h : List.Forall₂ ReadsEntry members entries) {name : String} {e : Expr} :
    (name, e) ∈ (NameMap.ofMembers entries).entries ↔ ∃ before node after,
      members = before ++ (name, node) :: after ∧ name ∉ after.map Prod.fst ∧
        expr deepest node = .ok e := by
  rw [NameMap.mem_entries_ofMembers_iff]
  constructor
  · rintro ⟨before, after, rfl, hafter⟩
    obtain ⟨before', ⟨name', node⟩, after', rfl, _, hm, hrest⟩ := forall₂_middle h.flip
    obtain rfl : name = name' := hm.1
    rw [names_of_readsEntry hrest.flip] at hafter
    exact ⟨before', node, after', rfl, hafter, hm.2⟩
  · rintro ⟨before, node, after, rfl, hafter, he⟩
    obtain ⟨before', ⟨name', e'⟩, after', rfl, _, hm, hrest⟩ := forall₂_middle h
    obtain rfl : name' = name := hm.1
    obtain rfl := Except.ok.inj (hm.2.symm.trans he)
    rw [← names_of_readsEntry hrest] at hafter
    exact ⟨before', after', rfl, hafter⟩

end Body

/-! ## 4. The call -/

namespace Client

open Body (EntrypointsText)
open Json (Node Value literalOf nesting)
open Micheline (Expr)

/-- What a call for entrypoints comes to with a body. -/
theorem ask_entrypoints {σ : Type} {transport : Transport σ} {contract : Address} {s : σ} {text : String}
    (hreply : (transport (Call.entrypoints contract).path s).1 = .body text) :
    (ask transport (.entrypoints contract) s).1.1 =
      match Body.decode Body.wrappedEntrypoints text with
      | .ok types => .answered (.entrypoints types)
      | .error failure => .failed (.body failure) := by
  cases hdecode : Body.decode Body.wrappedEntrypoints text with
  | ok types => exact outcome_of_concludes hreply (.answered hdecode rfl)
  | error failure => exact outcome_of_concludes hreply (.undecoded hdecode)

/-- **A call for entrypoints is answered if and only if the type of every member is one, also where
    another member of its name comes later; else it fails because of the body. The answer has the names of
    the members and no others, each once, and they ascend as their bytes do. And under each name it has the
    type of the last member of the name. Types are read as they would be on their own.** -/
theorem answered_iff_readable {σ : Type} {transport : Transport σ} {contract : Address} {s : σ}
    {text : String} {members : List (String × Node)}
    (hreply : (transport (Call.entrypoints contract).path s).1 = .body text)
    (htext : EntrypointsText text members) (hnesting : nesting text ≤ 127) :
    ((∃ types, (ask transport (.entrypoints contract) s).1.1 = .answered (.entrypoints types)) ↔
      ∀ m ∈ members, ∃ e, Body.expr Body.deepest m.2 = .ok e) ∧
    ((∃ failure, (ask transport (.entrypoints contract) s).1.1 = .failed (.body failure)) ↔
      ∃ m ∈ members, ∀ e, Body.expr Body.deepest m.2 ≠ .ok e) ∧
    ∀ types, (ask transport (.entrypoints contract) s).1.1 = .answered (.entrypoints types) →
      (∀ name, name ∈ types.names ↔ name ∈ members.map Prod.fst) ∧
      types.names.Nodup ∧ types.names.Pairwise (fun a b => Text.bytes a < Text.bytes b) ∧
      ∀ name e, (name, e) ∈ types.entries ↔ ∃ before node after,
        members = before ++ (name, node) :: after ∧ name ∉ after.map Prod.fst ∧
          Body.expr Body.deepest node = .ok e := by
  have hanswered : ∀ types, (ask transport (.entrypoints contract) s).1.1 =
      .answered (.entrypoints types) ↔ Body.decode Body.wrappedEntrypoints text = .ok types := by
    intro types
    rw [ask_entrypoints hreply]
    cases Body.decode Body.wrappedEntrypoints text <;> simp
  have hfailed : (∃ failure, (ask transport (.entrypoints contract) s).1.1 =
      .failed (.body failure)) ↔ ¬ ∃ types, Body.decode Body.wrappedEntrypoints text = .ok types := by
    rw [ask_entrypoints hreply]
    cases Body.decode Body.wrappedEntrypoints text <;> simp
  have hdecoded := Body.exists_decode_entrypoints_iff htext hnesting
  refine ⟨?_, ?_, fun types htypes => ?_⟩
  · simp only [hanswered]
    exact hdecoded
  · rw [hfailed, hdecoded]
    simp only [not_forall, not_exists, exists_prop]
  · obtain ⟨entries, hentries, rfl⟩ :=
      (Body.decode_entrypoints_eq_ok_iff htext hnesting).mp ((hanswered types).mp htypes)
    refine ⟨fun name => ?_, NameMap.names_nodup _, ?_,
      fun name e => Body.mem_entries_iff_last hentries⟩
    · rw [NameMap.mem_names_ofMembers_iff, Body.names_of_readsEntry hentries]
    · exact (NameMap.names_ascending _).imp Text.lt_iff_bytes_lt.mp

/-- A name that was sent twice, and one that is sent after it and comes before it. -/
theorem answered_iff_readable_at_repeated_name :
    let entry (name : String) : Value := .object [("prim", .string name)]
    let v : Value := .object [("x", .null),
      ("entrypoints", .object [("b", entry "int"), ("a", .array []), ("b", entry "nat")])]
    let contract : Address := ⟨"KT1TcTqzHyveAJWaAkkX1LBNsXGRBnewGKpB", by decide +kernel⟩
    let asked := (ask prepared (.entrypoints contract) ⟨[], [.body v.text]⟩).1.1
    ∃ types, asked = .answered (.entrypoints types) ∧ types.names.Nodup ∧
      (∀ name, name ∈ types.names ↔ name = "a" ∨ name = "b") ∧
      ("a", .seq []) ∈ types.entries ∧ ("b", .apply "nat" []) ∈ types.entries := by
  intro entry v contract asked
  have hentry : ∀ name, (entry name).NumberFree := fun name =>
    .object (by simpa using Value.NumberFree.string name)
  have hfree : v.NumberFree := by
    refine .object (List.forall_mem_cons.mpr ⟨.null, List.forall_mem_singleton.mpr (.object ?_)⟩)
    simpa using ⟨hentry "int", .array (by simp), hentry "nat"⟩
  have htext : EntrypointsText v.text
      [("b", (entry "int").outline), ("a", .array .closed), ("b", (entry "nat").outline)] := by
    refine ⟨[(literalOf "x", .null)], literalOf "entrypoints", [(literalOf "b", (entry "int").outline),
      (literalOf "a", .array .closed), (literalOf "b", (entry "nat").outline)], [],
      Body.elementText_text hfree, Json.means_literalOf _, ?_, ?_⟩
    · simpa using ⟨"x", Json.means_literalOf "x", by decide⟩
    · exact .cons ⟨Json.means_literalOf _, rfl⟩ (.cons ⟨Json.means_literalOf _, rfl⟩
        (.cons ⟨Json.means_literalOf _, rfl⟩ .nil))
  have hnesting : nesting v.text ≤ 127 := by
    rw [Body.nesting_text hfree]
    decide +kernel
  have hread : ∀ name, Body.expr Body.deepest (entry name).outline = .ok (.apply name []) := by
    intro name
    have hwell : (Expr.apply name []).WellFormed := Expr.wellFormed_app.mpr (by simp)
    have hdepth : (Expr.apply name []).toValue.depth ≤ Body.deepest := Nat.le_of_ble_eq_true rfl
    exact Micheline.expr_outline_eq_ok_iff.mpr ⟨⟨hwell, hdepth⟩, rfl⟩
  have hreply : (prepared (Call.entrypoints contract).path ⟨[], [.body v.text]⟩).1 = .body v.text := rfl
  obtain ⟨hanswered, _, hentries⟩ := answered_iff_readable hreply htext hnesting
  obtain ⟨types, htypes⟩ := hanswered.mpr (by
    simpa using ⟨⟨_, hread "int"⟩, ⟨_, rfl⟩, ⟨_, hread "nat"⟩⟩)
  obtain ⟨hnames, hnodup, _, hlast⟩ := hentries types htypes
  refine ⟨types, htypes, hnodup, fun name => ?_, ?_, ?_⟩
  · rw [hnames]
    simp [or_left_comm, or_comm]
  · exact (hlast _ _).mpr ⟨[_], _, [_], rfl, by simp, rfl⟩
  · exact (hlast _ _).mpr ⟨[_, _], _, [], rfl, by simp, hread "nat"⟩

end Client

end ContractQuery
