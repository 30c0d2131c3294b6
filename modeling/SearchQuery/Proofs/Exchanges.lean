-- One exchange with an engine. A client is made unless that is refused. Where a client is open,
-- a search or a count makes one call, takes the next reply, and comes to what is read out of
-- that reply.
import SearchQuery.Engine

namespace SearchQuery

/-! ## Calls and replies -/

namespace World

/-- The outcome of the next call: an empty map if no reply is left. -/
def outcome (w : World) : Outcome := (w.replies.head?.getD Reply.empty).outcome

/-- The outside behind a call that took the next reply. -/
def asked (w : World) (c : Call) : World :=
  { w with calls := w.calls ++ [c], replies := w.replies.tail }

/-- The outside behind a request that reached an engine. -/
def reached (w : World) (x : Received) : World := { w with received := w.received ++ [x] }

@[simp]
theorem reached_outcome (w : World) (x : Received) : (w.reached x).outcome = w.outcome := rfl

theorem run_ask (c : Call) (w : World) : (World.ask c).run w = (w.outcome, w.asked c) := by
  obtain ⟨replies, received, calls, events, package⟩ := w
  cases replies <;> rfl

/-- How the making of such a client fails, if it does. -/
def refusal? (w : World) (kind : ClientKind) : Option Failure :=
  (w.construction? kind).bind fun reply =>
    match reply.outcome.body? with
    | .error failure => some failure
    | .ok _ => none

/-- The outside behind the making of such a client. -/
def constructed (w : World) (kind : ClientKind) (c : Call) : World :=
  { w with
    calls := w.calls ++ [c]
    replies := if (w.construction? kind).isSome then w.replies.tail else w.replies }

theorem run_construct (kind : ClientKind) (c : Call) (w : World) :
    (construct kind c).run w =
      ((w.construction? kind).map (·.outcome), w.constructed kind c) := by
  have hcalled : (call c).run w = ((), { w with calls := w.calls ++ [c] }) := rfl
  have hsame : ({ w with calls := w.calls ++ [c] } : World).construction? kind =
    w.construction? kind := rfl
  unfold construct constructed
  rw [StateT.run_bind, hcalled]
  show StateT.run (get >>= _) _ = _
  rw [StateT.run_bind, StateT.run_get]
  dsimp only [Id.run, bind, pure]
  rw [hsame]
  cases w.construction? kind <;> rfl

/-- A step that makes a client goes on unless that is refused. -/
theorem run_construct_then {α : Type} (kind : ClientKind) (c : Call) (w : World)
    (refused : Failure → Act α) (rest : Act α) :
    (do match (← construct kind c).map Outcome.body? with
      | some (.error failure) => refused failure
      | _ => rest : Act α).run w =
      match w.refusal? kind with
      | some failure => (refused failure).run (w.constructed kind c)
      | none => rest.run (w.constructed kind c) := by
  rw [StateT.run_bind, run_construct]
  unfold refusal?
  rcases w.construction? kind with
    - | ⟨⟨failure⟩ | ⟨status, body, undecodable⟩, making⟩ <;> rfl

end World

/-! ## Steps one after the other -/

section

variable {α β : Type} {w w' : World}

theorem run_bind_plain {p : Act α} {f : α → Step β} {a : α} (h : p.run w = (a, w')) :
    ((liftM p : Step α) >>= f).run.run w = (f a).run.run w' := by
  have hrun : ((liftM p : Step α) >>= f).run.run w = (f (p.run w).1).run.run (p.run w).2 := rfl
  rw [hrun, h]

theorem run_bind_ok (a : α) (f : α → Step β) :
    ((liftM (.ok a : Except Fault α) : Step α) >>= f).run.run w = (f a).run.run w := rfl

theorem run_bind (p : Step α) (f : α → Step β) (w : World) :
    (p >>= f).run.run w =
      match p.run.run w with
      | (.ok a, w') => (f a).run.run w'
      | (.error fault, w') => (.error fault, w') := by
  have hrun : (p >>= f).run.run w =
      (ExceptT.bindCont f (p.run.run w).1).run (p.run.run w).2 := rfl
  rw [hrun]
  rcases p.run.run w with ⟨outcome, w'⟩
  cases outcome <;> rfl

theorem run_bind_checked {p : Step α} {f : α → Except Fault β} {x : Except Fault α}
    (h : p.run.run w = (x, w')) :
    (p >>= fun a => (liftM (f a) : Step β)).run.run w = (x >>= f, w') := by
  rw [run_bind, h]
  cases x <;> rfl

end

/-! ## Solr -/

namespace Solr

/-- What a post is told of its outcome. -/
def answerOf (outcome : Outcome) : Except Fault (List (Value × Value)) :=
  match outcome.accepted? with
  | .error (.transport text) => .error (.requestFailed "Solr" "query" text)
  | .error failure => .error failure.toFault
  | .ok (_, some complaint) => .error (.clientValue complaint)
  | .ok (answer, none) => answer.toEntries

/-- The call that posts a map for a request. -/
def posting (s : Solr) (r : Request) (body : Value) : Call :=
  .post ("/" ++ (s.collectionOf r).display ++ "/select") body

variable {s : Solr} (hlive : s.live = true) (r : Request) (w : World)
include hlive

/-- A post makes one call and is told of its outcome. -/
theorem run_select (body : Value) :
    (s.select r body).run.run w = (answerOf w.outcome, w.asked (s.posting r body)) := by
  unfold select answerOf
  dsimp only
  rw [hlive, Bool.not_true, if_neg Bool.false_ne_true]
  rw [run_bind_plain (World.run_ask _ w)]
  cases w.outcome.accepted? with
  | error failure => cases failure <;> rfl
  | ok accepted =>
    obtain ⟨answer, undecodable⟩ := accepted
    cases undecodable <;> rfl

theorem run_execute :
    (s.execute r).run.run w =
      (answerOf w.outcome >>= resultsOf, w.asked (s.posting r (s.searchBody r))) :=
  run_bind_checked (run_select hlive r w _)

theorem run_count :
    (s.count r).run.run w =
      (answerOf w.outcome >>= totalOf, w.asked (s.posting r (s.countBody r))) :=
  run_bind_checked (run_select hlive r w _)

omit hlive

/-- Without a client nothing is posted. -/
theorem run_select_closed (hclosed : s.live = false) (body : Value) :
    (s.select r body).run.run w = (.error (.noClient "Solr"), w) := by
  unfold select
  dsimp only
  rw [hclosed]
  rfl

theorem run_execute_closed (hclosed : s.live = false) :
    (s.execute r).run.run w = (.error (.noClient "Solr"), w) :=
  run_bind_checked (run_select_closed r w hclosed _)

theorem run_count_closed (hclosed : s.live = false) :
    (s.count r).run.run w = (.error (.noClient "Solr"), w) :=
  run_bind_checked (run_select_closed r w hclosed _)

end Solr

/-! ## OpenSearch -/

namespace OpenSearch

/-- The number in an answer to a count. -/
def totalOf (answer : Value) : Except Fault Int := do (← answer.getD "count" (.int 0)).toInt

variable {o : OpenSearch} (hlive : o.live = true) (r : Request) (w : World)
include hlive

theorem run_execute {body : Value} (hbody : o.searchBody r = .ok body) :
    (o.execute r).run.run w =
      (bodyOf "query" w.outcome >>= resultsOf, w.asked (.search (o.indexOf r) body)) := by
  unfold execute
  dsimp only
  rw [hlive, Bool.not_true, if_neg Bool.false_ne_true, hbody, run_bind_ok]
  refine (run_bind_plain (World.run_ask _ w)).trans ?_
  exact run_bind_checked (p := liftM (bodyOf "query" w.outcome)) rfl

theorem run_count :
    (o.count r).run.run w =
      (bodyOf "count" w.outcome >>= totalOf, w.asked (.count (o.indexOf r) (o.countBody r))) := by
  unfold count
  dsimp only
  rw [hlive, Bool.not_true, if_neg Bool.false_ne_true]
  refine (run_bind_plain (World.run_ask _ w)).trans ?_
  cases bodyOf "count" w.outcome with
  | error fault => rfl
  | ok answer => exact run_bind_checked (p := liftM (answer.getD "count" (.int 0))) rfl

omit hlive

theorem run_execute_closed (hclosed : o.live = false) :
    (o.execute r).run.run w = (.error (.noClient "OpenSearch"), w) := by
  unfold execute
  dsimp only
  rw [hclosed]
  rfl

theorem run_count_closed (hclosed : o.live = false) :
    (o.count r).run.run w = (.error (.noClient "OpenSearch"), w) := by
  unfold count
  dsimp only
  rw [hclosed]
  rfl

end OpenSearch

/-! ## Engines -/

namespace Engine

/-- Whether the engine is a service with an open client. -/
def hasClient : Engine → Bool
  | .solr s => s.live
  | .openSearch o => o.live
  | .shelf _ => false

/-- A request reaches the engine before the engine does anything with it. -/
theorem run_execute (e : Engine) (r : Request) (w : World) :
    (e.execute r).run.run w =
      match e with
      | .solr s => (s.execute r).run.run (w.reached (.search r))
      | .openSearch o => (o.execute r).run.run (w.reached (.search r))
      | .shelf s => (s.execute r).run.run (w.reached (.search r)) := by
  cases e <;> rfl

theorem run_count (e : Engine) (r : Request) (w : World) :
    (e.count r).run.run w =
      match e with
      | .solr s => (s.count r).run.run (w.reached (.count r))
      | .openSearch o => (o.count r).run.run (w.reached (.count r))
      | .shelf s => (s.count r).run.run (w.reached (.count r)) := by
  cases e <;> rfl

end Engine

end SearchQuery
