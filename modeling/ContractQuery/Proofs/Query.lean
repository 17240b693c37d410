import ContractQuery.Proofs.BlockId
import ContractQuery.Query

/-!
# Paths and what they ask for

The path of a question is made of fixed words and of the texts of its arguments, with slashes between
them.

* `segmentsAt` lists the segments of a path, without slashes; `Query.path_eq` is the path with them.
* `IsSegment`: a text is not empty and has only characters that a URL takes for themselves. Words,
  names of blocks, identifiers and integers are such texts, so the slashes of a path are those
  between its segments and no others (`Query.splitOn_path`).
* **`Query.path_inj`**: the segments tell the question. So do the paths, as paths can be taken apart.
* **`path_inj_and_segments`**: no two questions share a path, and no argument changes how many segments
  a path has or brings in a character with a meaning of its own.
-/

namespace ContractQuery

/-! ## 1. Segments -/

/-- A character that a URL takes for itself: one of `A` to `Z`, `a` to `z` and `0` to `9`, or one of
    `_`, `-` and `~`. -/
def IsPlain (c : Char) : Prop :=
  c.isUpper = true ∨ c.isLower = true ∨ c.isDigit = true ∨ c = '_' ∨ c = '-' ∨ c = '~'

instance : DecidablePred IsPlain := fun _ => inferInstanceAs (Decidable (_ ∨ _))

/-- A text that may stand between two slashes. -/
def IsSegment (s : String) : Prop := s ≠ "" ∧ ∀ c ∈ s.toList, IsPlain c

theorem forall_isPlain_iff {cs : List Char} :
    (∀ c ∈ cs, IsPlain c) ↔ cs.all (fun c => decide (IsPlain c)) = true := by
  simp only [List.all_eq_true, decide_eq_true_eq]

-- character by character: among all characters there are would take too long
instance : DecidablePred IsSegment := fun s =>
  decidable_of_iff (s ≠ "" ∧ s.toList.all (fun c => decide (IsPlain c)) = true)
    (and_congr_right fun _ => forall_isPlain_iff.symm)

theorem isPlain_of_isDigit {c : Char} (h : c.isDigit = true) : IsPlain c := .inr (.inr (.inl h))

theorem isPlain_of_mem_alphabet : ∀ c ∈ Base58.alphabet, IsPlain c :=
  forall_isPlain_iff.mpr (by decide)

theorem isSegment_identifier {kind : Identifier.Kind} (id : Identifier kind) : IsSegment id.text :=
  ⟨id.text_ne_empty, fun c hc => isPlain_of_mem_alphabet c (Identifier.mem_alphabet_of_mem_text hc)⟩

theorem isSegment_renderInt64 (n : Int64) : IsSegment (Decimal.renderInt64 n) := by
  refine ⟨Decimal.renderInt64_ne_empty n, fun c hc => ?_⟩
  rw [Decimal.renderInt64, String.toList_ofList] at hc
  rcases Decimal.isDigit_or_minus_of_mem_render hc with hdigit | hminus
  · exact isPlain_of_isDigit hdigit
  · rw [hminus]
    decide

/-- The name of a block is a segment. -/
theorem isSegment_block (b : BlockId) : IsSegment b.text := by
  cases b with
  | head => decide
  | genesis => decide
  | level height => exact isSegment_renderInt64 height
  | hash block => exact isSegment_identifier block
  | headOffset offset =>
    have hlist : (BlockId.headOffset offset).text.toList =
        "head~".toList ++ Decimal.renderNat offset.toNat := String.toList_ofList
    refine ⟨fun hempty => ?_, fun c hc => ?_⟩
    · rw [hempty] at hlist
      cases hlist
    · rw [hlist] at hc
      rcases List.mem_append.mp hc with hword | hdigit
      · have hplain : ∀ c ∈ "head~".toList, IsPlain c := forall_isPlain_iff.mpr (by decide)
        exact hplain c hword
      · exact isPlain_of_isDigit (Decimal.isDigit_of_mem_renderNat hdigit)

namespace Query

/-! ## 2. Paths -/

/-- The block that a question is about. -/
def block : Query → BlockId
  | .contracts block => block
  | .balance _ block => block
  | .script _ block => block
  | .storage _ block => block
  | .entrypoints _ block => block
  | .bigMapKeys _ block => block
  | .bigMapValue _ _ block => block
  | .bigMapInfo _ block => block

/-- What a question is about at its block, as the rest of a path. -/
def subject : Query → List String
  | .contracts _ => ["contracts"]
  | .balance contract _ => ["contracts", contract.text, "balance"]
  | .script contract _ => ["contracts", contract.text, "script"]
  | .storage contract _ => ["contracts", contract.text, "storage"]
  | .entrypoints contract _ => ["contracts", contract.text, "entrypoints"]
  | .bigMapKeys bigMap _ =>
    ["raw", "json", "big_maps", "index", Decimal.renderInt64 bigMap, "contents"]
  | .bigMapValue bigMap key _ =>
    ["raw", "json", "big_maps", "index", Decimal.renderInt64 bigMap, "contents", key.text]
  | .bigMapInfo bigMap _ => ["raw", "json", "big_maps", "index", Decimal.renderInt64 bigMap]

end Query

/-- The segments of a path to something at a block. -/
def segmentsAt (block : BlockId) (subject : List String) : List String :=
  ["chains", "main", "blocks", block.text, "context"] ++ subject

namespace Query

/-- The segments of the path of a question. -/
def segments (q : Query) : List String := segmentsAt q.block q.subject

/-- How many segments the path of a question has, whatever its arguments are. -/
def segmentCount : Query → Nat
  | .contracts .. => 6
  | .balance .. => 8
  | .script .. => 8
  | .storage .. => 8
  | .entrypoints .. => 8
  | .bigMapInfo .. => 10
  | .bigMapKeys .. => 11
  | .bigMapValue .. => 12

theorem length_segments (q : Query) : q.segments.length = q.segmentCount := by
  cases q <;> rfl

/-- One more segment. -/
theorem intercalate_segmentsAt_append (block : BlockId) (subject : List String) (last : String) :
    "/".intercalate (segmentsAt block subject) ++ "/" ++ last =
      "/".intercalate (segmentsAt block (subject ++ [last])) := by
  have hne : segmentsAt block subject ≠ [] := List.cons_ne_nil _ _
  unfold segmentsAt at hne ⊢
  rw [← List.append_assoc, String.intercalate_append_of_ne_nil hne (List.cons_ne_nil _ _),
    String.intercalate_singleton]

theorem contractsPath_eq (block : BlockId) :
    contractsPath block = "/".intercalate (segmentsAt block ["contracts"]) := by
  have hfront : "chains/main/blocks/" = "chains" ++ "/" ++ ("main" ++ "/" ++ ("blocks" ++ "/")) := rfl
  have hback : "/context/contracts" = "/" ++ ("context" ++ "/" ++ "contracts") := rfl
  unfold contractsPath segmentsAt
  rw [hfront, hback]
  simp only [List.cons_append, List.nil_append, String.intercalate_cons_cons,
    String.intercalate_singleton, String.append_assoc]

theorem contractPath_eq (block : BlockId) (contract : Address) (item : String) :
    contractPath block contract item =
      "/".intercalate (segmentsAt block ["contracts", contract.text, item]) := by
  unfold contractPath
  rw [contractsPath_eq, intercalate_segmentsAt_append, intercalate_segmentsAt_append]
  rfl

theorem bigMapPath_eq (block : BlockId) (bigMap : Int64) : bigMapPath block bigMap =
    "/".intercalate
      (segmentsAt block ["raw", "json", "big_maps", "index", Decimal.renderInt64 bigMap]) := by
  have hfront : "chains/main/blocks/" = "chains" ++ "/" ++ ("main" ++ "/" ++ ("blocks" ++ "/")) := rfl
  have hback : "/context/raw/json/big_maps/index/" = "/" ++ ("context" ++ "/" ++ ("raw" ++ "/" ++
      ("json" ++ "/" ++ ("big_maps" ++ "/" ++ ("index" ++ "/"))))) := rfl
  unfold bigMapPath segmentsAt
  rw [hfront, hback]
  simp only [List.cons_append, List.nil_append, String.intercalate_cons_cons,
    String.intercalate_singleton, String.append_assoc]

/-- **The path of a question is its segments with slashes between them.** -/
theorem path_eq (q : Query) : q.path = "/".intercalate q.segments := by
  cases q with
  | contracts block => exact contractsPath_eq block
  | balance contract block => exact contractPath_eq block contract "balance"
  | script contract block => exact contractPath_eq block contract "script"
  | storage contract block => exact contractPath_eq block contract "storage"
  | entrypoints contract block => exact contractPath_eq block contract "entrypoints"
  | bigMapKeys bigMap block =>
    have hslash : "/contents" = "/" ++ "contents" := rfl
    rw [path, bigMapPath_eq, hslash, ← String.append_assoc, intercalate_segmentsAt_append]
    rfl
  | bigMapValue bigMap key block =>
    have hslash : "/contents/" = "/" ++ ("contents" ++ "/") := rfl
    rw [path, bigMapPath_eq, hslash, ← String.append_assoc, ← String.append_assoc,
      intercalate_segmentsAt_append, intercalate_segmentsAt_append]
    rfl
  | bigMapInfo bigMap block => exact bigMapPath_eq block bigMap

/-! ## 3. Paths taken apart -/

theorem isSegment_words : ∀ s ∈ ["chains", "main", "blocks", "context", "contracts", "balance", "script",
    "storage", "entrypoints", "raw", "json", "big_maps", "index", "contents"], IsSegment s := by
  decide +kernel

/-- No argument brings a slash, or anything else that has a meaning in a URL. -/
theorem isSegment_of_mem {q : Query} : ∀ s ∈ q.segments, IsSegment s := by
  have hwords := isSegment_words
  simp only [List.forall_mem_cons] at hwords
  unfold segments segmentsAt
  cases q <;>
    simp [subject, isSegment_block, isSegment_identifier, isSegment_renderInt64, hwords]

/-- **The segments of a path are what stands between its slashes.** -/
theorem splitOn_path (q : Query) : q.path.toList.splitOn '/' = q.segments.map String.toList := by
  have hslash : ∀ cs ∈ q.segments.map String.toList, '/' ∉ cs := by
    intro cs hcs hmem
    obtain ⟨s, hs, rfl⟩ := List.mem_map.mp hcs
    have hplain := (isSegment_of_mem s hs).2 '/' hmem
    exact absurd hplain (by decide)
  have hne : q.segments.map String.toList ≠ [] := by
    unfold segments segmentsAt
    simp
  rw [path_eq, String.toList_intercalate]
  exact List.splitOn_intercalate '/' hslash hne

/-- A character of texts with something between them is one of theirs or of what is between them. -/
theorem mem_intercalate {α : Type} {sep : List α} {c : α} {texts : List (List α)}
    (h : c ∈ sep.intercalate texts) : c ∈ sep ∨ ∃ text ∈ texts, c ∈ text := by
  induction texts with
  | nil => cases h
  | cons first rest ih =>
    cases rest with
    | nil =>
      rw [List.intercalate_singleton] at h
      exact .inr ⟨first, List.mem_cons_self, h⟩
    | cons second rest =>
      rw [List.intercalate_cons_cons, List.mem_append, List.mem_append] at h
      rcases h with (h | h) | h
      · exact .inr ⟨first, List.mem_cons_self, h⟩
      · exact .inl h
      · obtain hsep | ⟨text, htext, hc⟩ := ih h
        · exact .inl hsep
        · exact .inr ⟨text, List.mem_cons_of_mem _ htext, hc⟩

theorem slash_or_isPlain {q : Query} {c : Char} (h : c ∈ q.path.toList) : c = '/' ∨ IsPlain c := by
  rw [path_eq, String.toList_intercalate] at h
  obtain hslash | ⟨cs, hcs, hc⟩ := mem_intercalate h
  · exact .inl (List.mem_singleton.mp hslash)
  · obtain ⟨s, hs, rfl⟩ := List.mem_map.mp hcs
    exact .inr ((isSegment_of_mem s hs).2 c hc)

theorem segments_of_path {q q' : Query} (h : q.path = q'.path) : q.segments = q'.segments := by
  have hsplit := splitOn_path q
  rw [h, splitOn_path] at hsplit
  exact List.map_injective_iff.mpr (fun _ _ => String.toList_inj.mp) hsplit.symm

/-- What is asked for, and of which block, is the whole of a question. -/
theorem eq_of_subject {q q' : Query} (hblock : q.block = q'.block) (hsubject : q.subject = q'.subject) :
    q = q' := by
  cases q <;> cases q' <;>
    simp_all [block, subject, Identifier.text_inj, Decimal.renderInt64_inj]

/-- **Two questions have the same path only if they are the same.** -/
theorem path_inj {q q' : Query} : q.path = q'.path ↔ q = q' := by
  constructor
  · intro h
    have hsegments : segmentsAt q.block q.subject = segmentsAt q'.block q'.subject :=
      segments_of_path h
    have hblock : q.block.text = q'.block.text ∧ q.subject = q'.subject := by
      simpa [segmentsAt] using hsegments
    exact eq_of_subject (BlockId.text_inj.mp hblock.1) hblock.2
  · exact congrArg path

/-- **Two questions have the same path only if they are the same. What stands between the slashes of a
    path are the segments of its question: as many as there are in such a path whatever the
    arguments, none of them empty, and all of letters, digits, `_`, `-` and `~`. So nothing in a path
    begins the query or the fragment of a URL, or is an escape, or stands for a directory.** -/
theorem path_inj_and_segments :
    (∀ q q' : Query, q.path = q'.path ↔ q = q') ∧
    ∀ q : Query, q.path.toList.splitOn '/' = q.segments.map String.toList ∧
      q.segments.length = q.segmentCount ∧
      (∀ s ∈ q.segments, s ≠ "" ∧ ∀ c ∈ s.toList, IsPlain c) ∧
      ∀ c ∈ ['?', '#', '%', '.'], c ∉ q.path.toList := by
  refine ⟨fun q q' => path_inj, fun q => ⟨splitOn_path q, length_segments q, isSegment_of_mem, ?_⟩⟩
  have hspecial : ∀ c ∈ ['?', '#', '%', '.'], ¬ (c = '/' ∨ IsPlain c) := by
    intro c hc
    simp only [List.mem_cons, List.not_mem_nil, or_false] at hc
    rcases hc with rfl | rfl | rfl | rfl <;> decide
  exact fun c hc hmem => hspecial c hc (slash_or_isPlain hmem)

end Query

end ContractQuery
