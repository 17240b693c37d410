import ContractQuery.Proofs.Body.Open
import ContractQuery.Proofs.Micheline.Order

/-!
# Responses are open, expressions are closed

A response may say more than is asked of it, an expression may not. Each kind of node has members of its
own, and a member that is none of them is refused, however deep its object lies.

* `nodeKinds`: the kinds of nodes that are objects, by the names of their members. The members of an
  object that fits are of one kind (`Fitting.kind`).
* `InsertsAlien`: an object, and the same object with a member more that its kind does not have
  (`InsertsAlien.of_kind`).
* **`not_onlyFitting_of_alien`**: a value that is read from an outline with such a member has something in
  it that does not fit.
* **`responses_open_expressions_closed`**: both regimes side by side, of texts.
-/

namespace ContractQuery

namespace Micheline

open Body (Open ReadsMember readLiteral readValue)
open Json (Document ElementText Inside Literal Members Node Value literalOf mem_nodesOfItems
  mem_nodesOfMembers)

/-! ## 1. Members of a kind -/

/-- The kinds of nodes that are objects: an integer, a string, bytes, an application. -/
def nodeKinds : List (List String) := [["int"], ["string"], ["bytes"], ["prim", "args", "annots"]]

/-- All members have names of the kind. -/
def OfKind (kind : List String) (ms : List (Literal × Node)) : Prop :=
  ∀ m ∈ ms, ∃ name ∈ kind, readLiteral m.1 = .ok name

/-- The second object has a member more than the first, anywhere among them; its name belongs to no kind
    that the others are of. -/
inductive InsertsAlien : Node → Node → Prop
  | mk {before after : List (Literal × Node)} {key : Literal} {name : String} (value : Node)
    (hname : readLiteral key = .ok name)
    (halien : ∀ kind ∈ nodeKinds, OfKind kind (before ++ after) → name ∉ kind) :
    InsertsAlien (.object (.ofList (before ++ after)))
      (.object (.ofList (before ++ (key, value) :: after)))

/-- No name belongs to two kinds. -/
theorem nodeKinds_disjoint : ∀ kind ∈ nodeKinds, ∀ other ∈ nodeKinds, ∀ name ∈ kind, name ∈ other →
    kind = other := by
  decide

/-- Of an object that has members of a kind, any name will do that is not of this kind. -/
theorem InsertsAlien.of_kind {before after : List (Literal × Node)} {kind : List String}
    (hkind : kind ∈ nodeKinds) (hne : before ++ after ≠ []) (hof : OfKind kind (before ++ after))
    {key : Literal} {name : String} (hname : readLiteral key = .ok name) (hother : name ∉ kind)
    (value : Node) : InsertsAlien (.object (.ofList (before ++ after)))
      (.object (.ofList (before ++ (key, value) :: after))) := by
  refine .mk value hname fun kind' hkind' hof' => ?_
  obtain ⟨m, hm⟩ := List.exists_mem_of_ne_nil _ hne
  obtain ⟨n, hn, hread⟩ := hof m hm
  obtain ⟨n', hn', hread'⟩ := hof' m hm
  obtain rfl : n = n' := Except.ok.inj (hread.symm.trans hread')
  rw [← nodeKinds_disjoint kind hkind kind' hkind' n hn hn']
  exact hother

/-- The members of an object that fits are of one kind. -/
theorem Fitting.kind {members : List (String × Value)} (h : Fitting (.object members)) :
    ∃ kind ∈ nodeKinds, ∀ m ∈ members, m.1 ∈ kind := by
  cases h with
  | @leaf name hname text =>
    refine ⟨[name], ?_, by simp⟩
    rcases hname with rfl | rfl | rfl <;> simp [nodeKinds]
  | app hdistinct hprim hnames =>
    refine ⟨["prim", "args", "annots"], by simp [nodeKinds], fun m hm => ?_⟩
    simpa using hnames m.1 (List.mem_map_of_mem hm)

/-- Where members are read under names of a kind, they are of that kind. -/
theorem ofKind_of_reads {kind : List String} {room : Nat} {ms : List (Literal × Node)}
    {vs : List (String × Value)} (h : List.Forall₂ (ReadsMember room) ms vs)
    (hnames : ∀ m ∈ vs, m.1 ∈ kind) : OfKind kind ms := by
  induction h with
  | nil => nofun
  | cons hread _ ih =>
    obtain ⟨hname, hrest⟩ := List.forall_mem_cons.mp hnames
    exact List.forall_mem_cons.mpr ⟨⟨_, hname, hread.1⟩, ih hrest⟩

/-! ## 2. Members of no kind -/

theorem OnlyFitting.root {v : Value} (h : OnlyFitting v) : Fitting v := by
  refine h v ?_
  cases v <;> simp [Value.nodes]

theorem OnlyFitting.item {items : List Value} (h : OnlyFitting (.array items)) {v : Value}
    (hv : v ∈ items) : OnlyFitting v :=
  fun w hw => h w (List.mem_cons_of_mem _ (mem_nodesOfItems.mpr ⟨v, hv, hw⟩))

theorem OnlyFitting.member {members : List (String × Value)} (h : OnlyFitting (.object members))
    {m : String × Value} (hm : m ∈ members) : OnlyFitting m.2 :=
  fun w hw => h w (List.mem_cons_of_mem _ (mem_nodesOfMembers.mpr ⟨m, hm, hw⟩))

/-- **What is read from an outline with a member of no kind has something in it that does not fit.** -/
theorem not_onlyFitting_of_alien {a b : Node} (h : Inside InsertsAlien a b) :
    ∀ {room : Nat} {v : Value}, readValue room b = .ok v → ¬ OnlyFitting v := by
  induction h with
  | here h =>
    intro room v hread hfit
    cases h with
    | mk value hname halien =>
      obtain ⟨inner, vs, -, rfl, hvs⟩ := Body.readValue_object_iff.mp hread
      obtain ⟨before', m, after', rfl, hbefore, hm, hafter⟩ := forall₂_middle hvs
      obtain ⟨kind, hkind, hnames⟩ := hfit.root.kind
      -- the kind that has the new member would have the others too
      have hothers : OfKind kind _ := ofKind_of_reads (List.rel_append hbefore hafter) fun n hn => by
        rcases List.mem_append.mp hn with hn | hn
        · exact hnames n (List.mem_append_left _ hn)
        · exact hnames n (List.mem_append_right _ (List.mem_cons_of_mem _ hn))
      have hnew : m.1 ∈ kind := hnames m (List.mem_append_right _ List.mem_cons_self)
      rw [← Except.ok.inj (hname.symm.trans hm.1)] at hnew
      exact halien kind hkind hothers hnew
  | item before after _ ih =>
    intro room v hread hfit
    obtain ⟨inner, vs, -, rfl, hvs⟩ := Body.readValue_array_iff.mp hread
    obtain ⟨before', v, after', rfl, -, hv, -⟩ := forall₂_middle hvs
    exact ih hv (hfit.item (List.mem_append_right _ List.mem_cons_self))
  | member before after key _ ih =>
    intro room v hread hfit
    obtain ⟨inner, vs, -, rfl, hvs⟩ := Body.readValue_object_iff.mp hread
    obtain ⟨before', m, after', rfl, -, hm, -⟩ := forall₂_middle hvs
    exact ih hm.2 (hfit.member (List.mem_append_right _ List.mem_cons_self))

/-- An outline with a member of no kind is not read as an expression. -/
theorem expr_error_of_alien {a b : Node} (h : Inside InsertsAlien a b) (room : Nat) :
    ∃ failure, Body.expr room b = .error failure := by
  cases hread : Body.expr room b with
  | error failure => exact ⟨failure, rfl⟩
  | ok e =>
    obtain ⟨v, hv, he⟩ := Body.expr_eq_ok_iff.mp hread
    exact absurd (denotes_of_ofValue? he).onlyFitting (not_onlyFitting_of_alien h hv)

/-! ## 3. Texts -/

/-- An object text that is read as a response belongs to the grammar. -/
theorem elementText_of_object {α : Type} {decoder : Body.Decoder α} {names : List String}
    (h : Open decoder names) {text : String} {a : α} {members : Members}
    (hread : Body.decode decoder text = .ok a) (hroot : (Document.ofText text).root = .object members) :
    ∃ ms, ElementText text.toList (.object (.ofList ms)) := by
  have htext := h.carried.elementText hread
  rw [hroot] at htext
  obtain ⟨ms, rfl⟩ := Members.exists_ofList htext.whole
  exact ⟨ms, htext⟩

/-- **Responses are open: an object text that is read as one belongs to the grammar, and the same is read
    from every text of the grammar whose root has those members in any order, and with them any others that
    are not declared. Expressions are closed: what is read as one belongs to the grammar; two texts of the
    grammar whose objects have the same members in another order are read as the same expression or fail in
    the same way; and where a member is put into an object whose kind of node does not have it, at any
    depth, there is no expression.** -/
theorem responses_open_expressions_closed :
    (∀ {α : Type} {decoder : Body.Decoder α} {names : List String} {text : String} {a : α},
      Open decoder names → Body.decode decoder text = .ok a →
      (∀ {members : Members}, (Document.ofText text).root = .object members →
        ∃ ms, ElementText text.toList (.object (.ofList ms))) ∧
      ∀ {text' : String} {ms ms' extras : List (Literal × Node)},
        ElementText text.toList (.object (.ofList ms)) →
        ElementText text'.toList (.object (.ofList ms')) → ms'.Perm (ms ++ extras) →
        (∀ m ∈ extras, ∃ name, readLiteral m.1 = .ok name ∧ name ∉ names) →
        Body.decode decoder text' = .ok a) ∧
    (∀ {text : String} {e : Expr}, Body.decode Body.expr text = .ok e →
      ∃ a, ElementText text.toList a) ∧
    (∀ {text text' : String} {a b : Node}, ElementText text.toList a → ElementText text'.toList b →
      Reordered a b → Body.decode Body.expr text' = Body.decode Body.expr text) ∧
    (∀ {text' : String} {a b : Node}, ElementText text'.toList b → Inside InsertsAlien a b →
      ∃ failure, Body.decode Body.expr text' = .error failure) := by
  refine ⟨fun hopen hread => ⟨fun hroot => elementText_of_object hopen hread hroot,
    fun htext htext' hperm hextras => hopen.decode_extend hread htext htext' hperm hextras⟩,
    fun hread => ⟨_, Body.Carried.expr.elementText hread⟩, fun htext htext' h => ?_,
    fun htext' h => ?_⟩
  · rw [Body.decode_of_elementText _ htext, Body.decode_of_elementText _ htext']
    exact (expr_eq_of_reordered h htext.whole htext'.whole Body.deepest).symm
  · rw [Body.decode_of_elementText _ htext']
    exact expr_error_of_alien h Body.deepest

/-- A response with members that are not declared, among them a number beyond the doubles and half of a
    surrogate pair; an application with its members the other way round; and the same with a member of
    another kind in its argument. -/
theorem response_extended_expression_refused :
    let plain := "\x7b\"entrypoints\":\x7b\x7d\x7d"
    let extended := "\x7b\"x\":1e999,\"entrypoints\":\x7b\x7d,\"x\":\"\\ud800\"\x7d"
    let left := "\x7b\"prim\":\"Left\",\"args\":[\x7b\"int\":\"1\"\x7d]\x7d"
    let swapped := "\x7b\"args\":[\x7b\"int\":\"1\"\x7d],\"prim\":\"Left\"\x7d"
    let mixed := "\x7b\"prim\":\"Left\",\"args\":[\x7b\"int\":\"1\",\"string\":\"1\"\x7d]\x7d"
    Body.decode Body.wrappedEntrypoints plain = .ok .empty ∧
    (∃ ms, ElementText plain.toList (.object (.ofList ms))) ∧
    Body.decode Body.wrappedEntrypoints extended = .ok .empty ∧
    Body.decode Body.expr left = .ok (.app "Left" [.int "1"] []) ∧
    (∃ a, ElementText left.toList a) ∧
    Body.decode Body.expr swapped = Body.decode Body.expr left ∧
    ∃ failure, Body.decode Body.expr mixed = .error failure := by
  intro plain extended left swapped mixed
  -- the response
  let key : Literal := literalOf "x"
  let huge : Literal × Node := (key, .number ['1', 'e', '9', '9', '9'])
  let half : Literal × Node := (key, .string ⟨[.highHalf 0], none⟩)
  let declared : Literal × Node := (literalOf "entrypoints", .object (.ofList []))
  have hplain : ElementText plain.toList (.object (.ofList [declared])) := by
    have htext : plain = (Value.object [("entrypoints", .object [])]).text := by decide +kernel
    rw [htext]
    exact Body.elementText_text (.object (by simpa using .object (by simp)))
  have hextended : ElementText extended.toList (.object (.ofList [huge, declared, half])) := by
    have htext : extended.toList = ['{', '"', 'x', '"', ':', '1', 'e', '9', '9', '9', ',', '"', 'e', 'n',
        't', 'r', 'y', 'p', 'o', 'i', 'n', 't', 's', '"', ':', '{', '}', ',', '"', 'x', '"', ':', '"',
        '\\', 'u', 'd', '8', '0', '0', '"', '}'] := by decide +kernel
    have hdeclared : literalOf "entrypoints" = ⟨['e', 'n', 't', 'r', 'y', 'p', 'o', 'i', 'n', 't',
        's'].map .char, none⟩ := by decide +kernel
    have hkey : key = ⟨[.char 'x'], none⟩ := by decide +kernel
    refine Json.elementText_iff.mpr ⟨?_, ⟨rfl, trivial, rfl, trivial, rfl, rfl, trivial⟩⟩
    simp only [Document.ofText, htext, declared, huge, half, hdeclared, hkey]
    rfl
  have hread : Body.decode Body.wrappedEntrypoints plain = .ok .empty := by
    rw [Body.decode_of_elementText _ hplain]
    simp [Body.wrappedEntrypoints, Body.record, declared, Members.ofList, Body.eachMember,
      Body.readLiteral_literalOf, Body.takeField]
    rfl
  -- the expressions
  let one : Literal × Node := (literalOf "int", .string (literalOf "1"))
  let alien : Literal × Node := (literalOf "string", .string (literalOf "1"))
  let prim : Literal × Node := (literalOf "prim", .string (literalOf "Left"))
  let args (ms : List (Literal × Node)) : Literal × Node :=
    (literalOf "args", .array (.ofList [.object (.ofList ms)]))
  let value : Value := .object [("prim", .string "Left"),
    ("args", .array [.object [("int", .string "1")]])]
  have htext : left = value.text := by decide +kernel
  have hfree : value.NumberFree := .object (by
    simpa using ⟨.string _, .array (by simpa using .object (by simpa using .string _))⟩)
  have hleft : ElementText left.toList (.object (.ofList [prim, args [one]])) := by
    rw [htext]
    exact Body.elementText_text hfree
  have hswapped : ElementText swapped.toList (.object (.ofList [args [one], prim])) := by
    have htext : swapped = (Value.object [("args", .array [.object [("int", .string "1")]]),
        ("prim", .string "Left")]).text := by decide +kernel
    rw [htext]
    refine Body.elementText_text (.object ?_)
    simpa using ⟨.array (by simpa using .object (by simpa using .string _)), .string _⟩
  have hmixed : ElementText mixed.toList (.object (.ofList [prim, args [one, alien]])) := by
    have htext : mixed = (Value.object [("prim", .string "Left"),
        ("args", .array [.object [("int", .string "1"), ("string", .string "1")]])]).text := by
      decide +kernel
    rw [htext]
    refine Body.elementText_text (.object ?_)
    simpa using ⟨.string _, .array (by simpa using .object (by simpa using .string _))⟩
  have hexpr : Body.decode Body.expr left = .ok (.app "Left" [.int "1"] []) := by
    refine decode_expr_eq_ok_iff.mpr ⟨value, ?_, ofValue?_eq_some_iff.mp (by decide +kernel)⟩
    rw [htext]
    exact Body.decode_readValue_text hfree (by decide +kernel)
  have halien : InsertsAlien (.object (.ofList [one])) (.object (.ofList [one, alien])) := by
    have hof : OfKind ["int"] [one] := by
      simpa [OfKind] using Body.readLiteral_literalOf "int"
    exact @InsertsAlien.of_kind [one] [] ["int"] (by decide) (by simp) hof _ "string"
      (Body.readLiteral_literalOf _) (by decide) alien.2
  have hroot : (Document.ofText plain).root = .object (.ofList [declared]) := by
    rw [Json.ofText_of_elementText hplain]
  have hopen := responses_open_expressions_closed.1 .entrypoints hread
  refine ⟨hread, hopen.1 hroot, ?_, hexpr, responses_open_expressions_closed.2.1 hexpr, ?_, ?_⟩
  · refine hopen.2 hplain hextended (.swap declared huge [half]) fun m hm =>
      ⟨"x", ?_, by decide⟩
    rcases List.mem_pair.mp hm with rfl | rfl <;> exact Body.readLiteral_literalOf "x"
  · exact responses_open_expressions_closed.2.2.1 hleft hswapped
      (.single (.here (.mk (.swap _ _ []))))
  · exact responses_open_expressions_closed.2.2.2 hmixed
      (.member [prim] [] (literalOf "args") (.item [] [] (.here halien)))

end Micheline

end ContractQuery
