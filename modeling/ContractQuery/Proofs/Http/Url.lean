import ContractQuery.Http.Remote
import ContractQuery.Proofs.Query
import Mathlib.Data.List.DropRight

/-!
# One slash between base and path

Slashes are taken off twice: from the end of a base when a remote is made, and from the beginning of a
path when it is asked for. Neither place knows how many the other took.

* `base_append_slashes`, `join_slashes`: more slashes at the one place or at the other do not matter.
* `base_base`, `not_slash_of_base`, `exists_base_append`: a base is what is left when all slashes at the
  end of an address are gone, and nothing else is.
* **`join_eq_iff`**: under one base the rest of a path is told by its address.
* `BuiltFrom` lists the ways in which a remote is made of an address.
* **`url_slashes_and_inj`**: all this of remotes, however they were made, and of the paths of questions.
-/

namespace ContractQuery

namespace Url

/-- So many slashes. -/
def slashes (n : Nat) : String := String.ofList (List.replicate n '/')

theorem toList_slashes (n : Nat) : (slashes n).toList = List.replicate n '/' := String.toList_ofList

theorem all_slashes (n : Nat) : ∀ c ∈ (slashes n).toList, decide (c = '/') = true := by
  intro c hc
  rw [toList_slashes] at hc
  exact decide_eq_true (List.eq_of_mem_replicate hc)

/-! ## 1. Bases -/

theorem toList_base (url : String) : (base url).toList = url.toList.rdropWhile (· = '/') :=
  String.toList_ofList

/-- **Slashes at the end of an address do not change the base.** -/
theorem base_append_slashes (url : String) (n : Nat) : base (url ++ slashes n) = base url := by
  have hslashes : ∀ c ∈ (slashes n).toList.reverse, decide (c = '/') = true := fun c hc =>
    all_slashes n c (List.mem_reverse.mp hc)
  unfold base dropSlashes
  rw [String.toList_append, List.reverse_append, List.dropWhile_append_of_pos hslashes]

/-- A base is its own base. -/
theorem base_base (url : String) : base (base url) = base url := by
  rw [← String.toList_inj, toList_base, toList_base]
  exact List.rdropWhile_idempotent _ _

theorem not_slash_of_base (url : String) : (base url).toList.getLast? ≠ some '/' := by
  rw [toList_base]
  intro h
  have hne : url.toList.rdropWhile (· = '/') ≠ [] := by
    intro hnil
    rw [hnil] at h
    cases h
  have hlast := List.rdropWhile_last_not (fun c => decide (c = '/')) url.toList hne
  rw [List.getLast?_eq_some_getLast hne] at h
  exact hlast (decide_eq_true (Option.some.inj h))

/-- Nothing but slashes is taken off. -/
theorem exists_base_append (url : String) : ∃ n, base url ++ slashes n = url := by
  refine ⟨(url.toList.rtakeWhile (· = '/')).length, ?_⟩
  have htaken : List.replicate (url.toList.rtakeWhile (· = '/')).length '/' =
      url.toList.rtakeWhile (· = '/') := by
    refine (List.eq_replicate_iff.mpr ⟨rfl, fun c hc => ?_⟩).symm
    have hslash := List.mem_rtakeWhile_imp hc
    exact of_decide_eq_true hslash
  rw [← String.toList_inj, String.toList_append, toList_base, toList_slashes, htaken]
  exact List.rdropWhile_append_rtakeWhile

/-! ## 2. Paths -/

/-- **Slashes at the beginning of a path do not change its address.** -/
theorem join_slashes (root path : String) (n : Nat) : join root (slashes n ++ path) = join root path := by
  unfold join dropSlashes
  rw [String.toList_append, List.dropWhile_append_of_pos (all_slashes n)]

/-- **Paths have the same address if and only if the rest after their slashes is the same.** -/
theorem join_eq_iff {root p q : String} :
    join root p = join root q ↔ dropSlashes p.toList = dropSlashes q.toList := by
  unfold join
  rw [String.append_right_inj, String.ofList_inj]

/-- The path of a question begins with a word. -/
theorem dropSlashes_path (q : Query) : dropSlashes q.path.toList = q.path.toList := by
  obtain ⟨rest, hrest⟩ : ∃ rest, q.path.toList = 'c' :: rest := by
    rw [Query.path_eq, String.toList_intercalate]
    exact ⟨_, rfl⟩
  rw [hrest]
  exact List.dropWhile_cons_of_neg (by decide)

end Url

namespace Http

open Url (slashes)

variable {σ : Type} {url path : String} {remote : Remote}

/-! ## 3. Remotes -/

/-- The remote was made of the address: plainly, around a client, or from settings. -/
inductive BuiltFrom (url : String) : Remote → Prop
  | plain : BuiltFrom url (.at url)
  | client (timeout : Option Nat) (userAgent : Option String) :
    BuiltFrom url (.askedBy timeout userAgent url)
  | settings {timeout : Option Nat} {userAgent : Option String} {remote : Remote}
    (h : (Settings.mk url timeout userAgent).build = .ok remote) : BuiltFrom url remote

/-- Settings, if anything, give what a client with the same limit and the same name gives. -/
theorem build_eq_ok {s : Settings} (h : s.build = .ok remote) :
    remote = .askedBy s.timeout s.userAgent s.url := by
  unfold Settings.build at h
  split at h
  · rename_i name hname
    split at h
    · cases h
      rw [hname]
      rfl
    · cases h
  · rename_i hname
    cases h
    rw [hname]
    rfl

theorem BuiltFrom.baseUrl (h : BuiltFrom url remote) : remote.baseUrl = Url.base url := by
  cases h with
  | plain => rfl
  | client => rfl
  | settings h =>
    rw [build_eq_ok h]
    rfl

/-- What is made of an address depends on its base alone. -/
theorem build_congr {url url' : String} (h : Url.base url = Url.base url') (timeout : Option Nat)
    (userAgent : Option String) :
    (Settings.mk url timeout userAgent).build = (Settings.mk url' timeout userAgent).build := by
  unfold Settings.build
  rw [h]

/-- What a remote does for a path depends on the address of the path alone. -/
theorem transport_congr {network : Network σ} {p q : String} (h : remote.url p = remote.url q) (s : σ) :
    remote.transport network p s = remote.transport network q s := by
  unfold Remote.transport
  rw [h]

theorem url_path_inj {q q' : Query} : remote.url q.path = remote.url q'.path ↔ q = q' := by
  unfold Remote.url
  rw [Url.join_eq_iff, Url.dropSlashes_path, Url.dropSlashes_path, String.toList_inj, Query.path_inj]

/-- **Slashes at the end of a base and at the beginning of a path do not matter: the remotes that are
    made are the same, and so is what they do for the path. What is left of the base does not end in a
    slash, stays as it is when slashes are taken off again, and lacks nothing else. Under one remote two
    paths have the same address if and only if the rest after their slashes is the same; so two questions
    never share one.** -/
theorem url_slashes_and_inj :
    (∀ (url : String) (m : Nat), Remote.at (url ++ slashes m) = .at url ∧
      ∀ (timeout : Option Nat) (userAgent : Option String),
        Remote.askedBy timeout userAgent (url ++ slashes m) = .askedBy timeout userAgent url ∧
        (Settings.mk (url ++ slashes m) timeout userAgent).build =
          (Settings.mk url timeout userAgent).build) ∧
    (∀ {url path : String} {m n : Nat} {remote remote' : Remote},
      BuiltFrom (url ++ slashes m) remote → BuiltFrom url remote' →
      remote.url (slashes n ++ path) = remote'.url path) ∧
    (∀ {σ : Type} (remote : Remote) (network : Network σ) (path : String) (n : Nat) (s : σ),
      remote.transport network (slashes n ++ path) s = remote.transport network path s) ∧
    (∀ {url : String} {remote : Remote}, BuiltFrom url remote →
      remote.baseUrl.toList.getLast? ≠ some '/' ∧ Url.base remote.baseUrl = remote.baseUrl ∧
        ∃ n, remote.baseUrl ++ slashes n = url) ∧
    (∀ (remote : Remote) (p q : String),
      remote.url p = remote.url q ↔ Url.dropSlashes p.toList = Url.dropSlashes q.toList) ∧
    (∀ (remote : Remote) (q q' : Query), remote.url q.path = remote.url q'.path ↔ q = q') := by
  refine ⟨fun url m => ?_, fun h h' => ?_, fun remote network path n s => ?_, fun h => ?_,
    fun _ _ _ => Url.join_eq_iff, fun _ _ _ => url_path_inj⟩
  · have hbase := Url.base_append_slashes url m
    refine ⟨?_, fun timeout userAgent => ⟨?_, build_congr hbase timeout userAgent⟩⟩
    · unfold Remote.at
      rw [hbase]
    · unfold Remote.askedBy
      rw [hbase]
  · unfold Remote.url
    rw [h.baseUrl, h'.baseUrl, Url.base_append_slashes, Url.join_slashes]
  · exact transport_congr (Url.join_slashes remote.baseUrl path n) s
  · rw [h.baseUrl]
    exact ⟨Url.not_slash_of_base _, Url.base_base _, Url.exists_base_append _⟩

/-- A base of slashes only, and a client with a name. -/
theorem url_slashes_and_inj_at_slashes :
    ∃ remote remote' : Remote, BuiltFrom ("" ++ slashes 3) remote ∧ BuiltFrom "" remote' ∧
      remote.url (slashes 2 ++ "chains") = remote'.url "chains" ∧
      remote.baseUrl.toList.getLast? ≠ some '/' := by
  have hslashes : BuiltFrom ("" ++ slashes 3) (.askedBy none (some "walker") ("" ++ slashes 3)) :=
    @BuiltFrom.settings _ none (some "walker") _ rfl
  refine ⟨_, _, hslashes, .plain, ?_, ?_⟩
  · exact url_slashes_and_inj.2.1 hslashes .plain
  · exact (url_slashes_and_inj.2.2.2.1 hslashes).1

end Http

end ContractQuery
