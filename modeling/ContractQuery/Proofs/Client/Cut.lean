import ContractQuery.Proofs.Body.Whole
import ContractQuery.Proofs.Client.Sentinel
import ContractQuery.Proofs.Http.Replies

/-!
# Bodies that are cut

A connection may break anywhere, so the start of a body may be taken for a body. It never passes for
one: where the whole body is read, its start is not, if more than blanks were lost.

* `carried_reader`: every call reads one of the kinds of bodies.
* `ask_cut`, `refusal_cut`: what that means for a call and for a response without success.
* **`cut_not_read`**: all of it together.
-/

namespace ContractQuery

namespace Client

open Http (refusal)
open Json (isBlank)

variable {σ τ : Type} {front back : String} {c : Char}

theorem carried_reader (call : Call) : Body.Carried call.reader.decoder := by
  cases call with
  | contracts | contractsAt => exact .contracts
  | balance | balanceAt => exact .balance
  | script => exact .script
  | storage | storageAt | bigMapValue | activeBigMapValue | bigMapValueAt => exact .expr
  | entrypoints => exact .entrypoints
  | bigMapKeys | activeBigMapKeys => exact .bigMapKeys
  | bigMapInfo | activeBigMapInfo => exact .bigMapInfo

/-- What is asked for comes to what the transport's reply says. -/
theorem ask_concludes (transport : Transport σ) (call : Call) (s : σ) :
    ∃ read, call.Concludes (transport call.path s).1 ((ask transport call s).1.1, read) := by
  rw [outcome_ask, path_query]
  exact ⟨_, concludes_iff.mpr rfl⟩

/-- A body is why a call fails if and only if it does not decode. -/
theorem ask_failed_body_iff {transport : Transport σ} {call : Call} {s : σ} {text : String}
    (hreply : (transport call.path s).1 = .body text) {failure : Body.Failure} :
    (ask transport call s).1.1 = .failed (.body failure) ↔
      Body.decode call.reader.decoder text = .error failure := by
  constructor
  · intro h
    obtain ⟨read, hconcludes⟩ := ask_concludes transport call s
    rw [hreply, h] at hconcludes
    cases hconcludes with
    | undecoded hdecode => exact hdecode
  · intro h
    exact outcome_of_concludes hreply (.undecoded h)

/-- **A call fails on a body that was cut, if it does not fail on the whole of it.** -/
theorem ask_cut (hc : c ∈ back.toList) (hblank : isBlank c = false) {transport : Transport σ}
    {transport' : Transport τ} {call : Call} {s : σ} {s' : τ}
    (hwhole : (transport call.path s).1 = .body (front ++ back))
    (hread : ∀ failure, (ask transport call s).1.1 ≠ .failed (.body failure))
    (hcut : (transport' call.path s').1 = .body front) :
    ∃ failure, (ask transport' call s').1.1 = .failed (.body failure) := by
  cases hdecode : Body.decode call.reader.decoder (front ++ back) with
  | error failure => exact absurd ((ask_failed_body_iff hwhole).mpr hdecode) (hread failure)
  | ok content =>
    obtain ⟨failure, hfailure⟩ := (carried_reader call).decode_cut hc hblank hdecode
    exact ⟨failure, (ask_failed_body_iff hcut).mpr hfailure⟩

/-- Errors of the node that were cut are none: the status is kept, and what there is of the body. -/
theorem refusal_cut (hc : c ∈ back.toList) (hblank : isBlank c = false) {code : Nat}
    {errors : List NodeError} (h : refusal code (front ++ back) = .node code errors) :
    refusal code front = .status code front := by
  unfold refusal at h ⊢
  split at h
  · rename_i e es hdecode
    obtain ⟨failure, hfailure⟩ := Body.Carried.nodeErrors.decode_cut hc hblank hdecode
    rw [hfailure]
  · cases h

/-- **Of a text that was read nothing but blanks can be lost at the end without its being refused.
    Every call reads one of these kinds of texts, so a call whose body was cut fails because of the
    body, if it would not have with the whole of it; and errors of the node that were cut are reported
    as none.** -/
theorem cut_not_read {front back : String} {c : Char} (hc : c ∈ back.toList)
    (hblank : isBlank c = false) :
    (∀ {α : Type} {decoder : Body.Decoder α} {a : α}, Body.Carried decoder →
      Body.decode decoder (front ++ back) = .ok a →
      ∃ failure, Body.decode decoder front = .error failure) ∧
    (∀ call : Call, Body.Carried call.reader.decoder) ∧
    (∀ {σ τ : Type} {transport : Transport σ} {transport' : Transport τ} {call : Call} {s : σ}
      {s' : τ}, (transport call.path s).1 = .body (front ++ back) →
      (∀ failure, (ask transport call s).1.1 ≠ .failed (.body failure)) →
      (transport' call.path s').1 = .body front →
      ∃ failure, (ask transport' call s').1.1 = .failed (.body failure)) ∧
    (∀ {code : Nat} {errors : List NodeError},
      refusal code (front ++ back) = .node code errors → refusal code front = .status code front) :=
  ⟨fun hdecoder hread => hdecoder.decode_cut hc hblank hread, carried_reader, ask_cut hc hblank,
    refusal_cut hc hblank⟩

/-- A balance that lost the last character of its last escape, and errors that lost the bracket after
    them. -/
theorem cut_not_read_at_escape :
    let balance := "\"40\\u003"
    let errors := "[\x7b\"kind\":\"branch\",\"id\":\"old\"\x7d"
    let call : Call :=
      .balance ⟨"tz1VSUr8wwNhLAzempoch5d6hLRiTh8Cjcjb", by decide +kernel⟩ .head
    let asked (body : String) := (ask prepared call ⟨[], [.body body]⟩).1.1
    Body.decode Body.string (balance ++ "2\"") = .ok "402" ∧
      (∃ failure, Body.decode Body.string balance = .error failure) ∧
      asked (balance ++ "2\"") = .answered (.balance 402) ∧
      (∃ failure, asked balance = .failed (.body failure)) ∧
      refusal 500 (errors ++ "]") = .node 500 [⟨"branch", "old", .empty⟩] ∧
      refusal 500 errors = .status 500 errors := by
  intro balance errors call asked
  have hdecode : Body.decode Body.string (balance ++ "2\"") = .ok "402" := by
    have htext : (balance ++ "2\"").toList = ['"', '4', '0', '\\', 'u', '0', '0', '3', '2', '"'] := by
      decide +kernel
    rw [Body.decode, Json.Document.ofText, htext]
    rfl
  have hanswered : asked (balance ++ "2\"") = .answered (.balance 402) := by
    obtain ⟨read, hconcludes⟩ := ask_concludes prepared call ⟨[], [.body (balance ++ "2\"")]⟩
    exact congrArg Prod.fst ((concludes_iff.mp hconcludes).symm.trans
      (concludes_iff.mp (.answered hdecode rfl)))
  have hrefused : refusal 500 (errors ++ "]") = .node 500 [⟨"branch", "old", .empty⟩] := by
    have htext : errors ++ "]" = (Json.Value.array
        [.object [("kind", .string "branch"), ("id", .string "old")]]).text := by
      decide +kernel
    exact Http.refusal_of_reports (htext ▸ Http.reports_text "branch" "old")
  have hlost : '2' ∈ "2\"".toList := List.mem_cons_self
  have hclosed : ']' ∈ "]".toList := List.mem_cons_self
  have hwhole : (prepared call.path ⟨[], [.body (balance ++ "2\"")]⟩).1 =
      .body (balance ++ "2\"") := rfl
  have hfront : (prepared call.path ⟨[], [.body balance]⟩).1 = .body balance := rfl
  refine ⟨hdecode, (cut_not_read hlost rfl).1 .balance hdecode, hanswered,
    (cut_not_read hlost rfl).2.2.1 hwhole (fun failure h => ?_) hfront, hrefused,
    (cut_not_read hclosed rfl).2.2.2 hrefused⟩
  cases hanswered.symm.trans h

end Client

end ContractQuery
