-- Requests that fail. A call to an engine fails when the client raises an error, when the
-- status of the reply is no success, or when its body cannot be decoded. Which of these
-- come out as faults of the engine, and which as they are.
import SearchQuery.Proofs.CheckedRequests
import SearchQuery.Proofs.Exchanges

namespace SearchQuery

/-! ## Faults of engines -/

/-- A fault of the family that callers of an engine catch. -/
def Fault.ofEngine : Fault → Bool
  | .noClient .. | .unreachable .. | .requestFailed .. | .disabled .. | .packageMissing => true
  | _ => false

/-! ## Failures of a call -/

namespace Solr

/-- How a post failed: there is no reply, its status is no success, or its body cannot be
decoded. -/
def failure? (outcome : Outcome) : Option Failure :=
  match outcome.accepted? with
  | .error failure => some failure
  | .ok (_, undecodable) => undecodable.map .value

/-- The fault of a request whose post failed. Only failures of the transport are handled. -/
def faultOf : Failure → Fault
  | .transport text => .requestFailed "Solr" "query" text
  | failure => failure.toFault

theorem answerOf_failed {outcome : Outcome} {failure : Failure}
    (h : failure? outcome = some failure) : answerOf outcome = .error (faultOf failure) := by
  unfold failure? at h
  unfold answerOf
  cases haccepted : outcome.accepted? with
  | error raised =>
    rw [haccepted] at h
    cases h
    cases failure <;> rfl
  | ok accepted =>
    obtain ⟨answer, undecodable⟩ := accepted
    rw [haccepted] at h
    obtain ⟨complaint, rfl, rfl⟩ := Option.map_eq_some_iff.mp h
    rfl

end Solr

namespace OpenSearch

/-- How a call of the client failed. The client looks at the status and the body itself and
raises an error if it does not like them. -/
def failure? : Outcome → Option Failure
  | .failed failure => some failure
  | .answered .. => none

theorem bodyOf_failed {outcome : Outcome} {failure : Failure} (request : String)
    (h : failure? outcome = some failure) :
    bodyOf request outcome = .error (.requestFailed "OpenSearch" request failure.text) := by
  cases outcome with
  | failed raised =>
    cases h
    rfl
  | answered => cases h

end OpenSearch

/-! ## Failed requests -/

/-- What a request asks for. -/
inductive Aim where
  | search | count
  deriving DecidableEq, Repr

namespace Engine

/-- How a call to the engine failed, if it did. -/
def failure? : Engine → Outcome → Option Failure
  | .solr _, outcome => Solr.failure? outcome
  | .openSearch _, outcome => OpenSearch.failure? outcome
  | .shelf _, _ => none

/-- The fault of a request whose call failed. Solr counts by a query. -/
def faultOf : Engine → Aim → Failure → Fault
  | .solr _, _, failure => Solr.faultOf failure
  | .openSearch _, .search, failure => .requestFailed "OpenSearch" "query" failure.text
  | .openSearch _, .count, failure => .requestFailed "OpenSearch" "count" failure.text
  | .shelf _, _, failure => failure.toFault

variable {e : Engine} {q : CheckedRequest} {w : World} {failure : Failure}

theorem ofEngine_faultOf (hopen : e.hasClient = true) (aim : Aim) :
    (e.faultOf aim failure).ofEngine = true ↔
      ((∃ s, e = .solr s) → ∃ text, failure = .transport text) := by
  cases e with
  | solr => cases failure <;> simp [faultOf, Solr.faultOf, Fault.ofEngine, Failure.toFault]
  | openSearch => cases aim <;> simp [faultOf, Fault.ofEngine]
  | shelf => contradiction

theorem run_execute_failed (hopen : e.hasClient = true)
    (hfailed : e.failure? w.outcome = some failure) :
    ((e.execute q.toRequest).run.run w).1 = .error (e.faultOf .search failure) := by
  rw [run_execute]
  cases e with
  | solr s =>
    dsimp only
    rw [Solr.run_execute hopen, World.reached_outcome, Solr.answerOf_failed hfailed]
    rfl
  | openSearch o =>
    dsimp only
    rw [OpenSearch.run_execute hopen _ _ OpenSearch.searchBody_checked, World.reached_outcome,
      OpenSearch.bodyOf_failed "query" hfailed]
    rfl
  | shelf => contradiction

theorem run_count_failed (hopen : e.hasClient = true)
    (hfailed : e.failure? w.outcome = some failure) :
    ((e.count q.toRequest).run.run w).1 = .error (e.faultOf .count failure) := by
  rw [run_count]
  cases e with
  | solr s =>
    dsimp only
    rw [Solr.run_count hopen, World.reached_outcome, Solr.answerOf_failed hfailed]
    rfl
  | openSearch o =>
    dsimp only
    rw [OpenSearch.run_count hopen, World.reached_outcome,
      OpenSearch.bodyOf_failed "count" hfailed]
    rfl
  | shelf => contradiction

/-- A search and a count fail if the call for them does, whatever the request and the way in
which the call failed. The fault is one of the engine unless Solr lets the failure through,
which it does with all but those of the transport: an error that its client raises by itself
and a body that cannot be decoded come out as they are. -/
theorem a_failed_call_is_a_fault_of_the_engine_unless_solr_lets_it_through
    (hopen : e.hasClient = true) (hfailed : e.failure? w.outcome = some failure) :
    ((e.execute q.toRequest).run.run w).1 = .error (e.faultOf .search failure) ∧
    ((e.count q.toRequest).run.run w).1 = .error (e.faultOf .count failure) ∧
    ∀ aim, (e.faultOf aim failure).ofEngine = true ↔
      ((∃ s, e = .solr s) → ∃ text, failure = .transport text) :=
  ⟨run_execute_failed hopen hfailed, run_count_failed hopen hfailed, ofEngine_faultOf hopen⟩

/-- A search and a count for which there is no connection end in faults of Solr. -/
theorem a_refused_call_is_a_fault_of_solr :
    let e : Engine := .solr { live := true }
    let q : CheckedRequest := { query := "title:dune" }
    let refused : World := { replies := [{ outcome := .failed (.transport "refused") }] }
    e.failure? refused.outcome = some (.transport "refused") ∧
    ((e.execute q.toRequest).run.run refused).1 =
      .error (.requestFailed "Solr" "query" "refused") ∧
    ((e.count q.toRequest).run.run refused).1 =
      .error (.requestFailed "Solr" "query" "refused") ∧
    (Fault.requestFailed "Solr" "query" "refused").ofEngine = true := by
  intro e q refused
  have hfailed : e.failure? refused.outcome = some (.transport "refused") := rfl
  obtain ⟨hsearched, hcounted, hfault⟩ :=
    a_failed_call_is_a_fault_of_the_engine_unless_solr_lets_it_through (q := q)
      (rfl : e.hasClient = true) hfailed
  exact ⟨hfailed, hsearched, hcounted, (hfault .search).mpr fun _ => ⟨"refused", rfl⟩⟩

/-- The complaint about a body that is no JSON comes out of Solr as it is. -/
theorem a_garbled_body_comes_out_of_solr_as_it_is :
    let e : Engine := .solr { live := true }
    let q : CheckedRequest := { query := "title:dune" }
    let garbled : World :=
      { replies := [{ outcome := .answered 200 (.map []) (some "Expecting value") }] }
    ((e.execute q.toRequest).run.run garbled).1 = .error (.clientValue "Expecting value") ∧
    ((e.count q.toRequest).run.run garbled).1 = .error (.clientValue "Expecting value") ∧
    (Fault.clientValue "Expecting value").ofEngine = false :=
  ⟨rfl, rfl, rfl⟩

end Engine

end SearchQuery
