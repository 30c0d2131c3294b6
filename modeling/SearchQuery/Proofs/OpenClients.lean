-- What an engine does with its clients over its life. Whatever it is told to do, in any order and
-- with any replies, its requests and closes go to a client that was made and is not closed.
import SearchQuery.Proofs.ClientLedger
import SearchQuery.Proofs.HealthChecks

namespace SearchQuery

variable {α : Type}

/-! ## Open clients, told from calls and replies -/

namespace Ledger

/-- The call makes a client. -/
def Makes (l : Ledger) (c : Call) : Prop := l.clients.length < (l.note c).clients.length

/-- The latest client is open. -/
def IsOpen (l : Ledger) : Prop := ∃ c rest, l.clients = c :: rest ∧ c.closed = 0

/-- Some calls that found these replies leave a client open: one of them made it, and none behind
that closed it. -/
def LeaveOpen (replies : List Reply) (calls : List Call) : Prop :=
  ∃ before made behind, calls = before ++ made :: behind ∧
    (before.foldl note { replies }).Makes made ∧ Call.close ∉ behind

theorem isOpen_made (replies : List Reply) (clients : List Client) :
    IsOpen { replies, clients := {} :: clients } := ⟨{}, clients, rfl, rfl⟩

theorem not_isOpen_close (replies : List Reply) (clients : List Client) :
    ¬ IsOpen { replies, clients := close clients } := by
  rintro ⟨c, rest, hclients, hc⟩
  cases clients with
  | nil => cases hclients
  | cons d others =>
    cases hclients
    exact Nat.succ_ne_zero _ hc

/-- A call that neither makes nor closes a client leaves open what is open. -/
theorem note_other (l : Ledger) {c : Call} (hc : c.purpose ≠ .connecting ∧ c ≠ .close) :
    (l.note c).clients.length = l.clients.length ∧ ((l.note c).IsOpen ↔ l.IsOpen) := by
  have hgreet (good : Bool) : (greet good l.clients).length = l.clients.length ∧
      (IsOpen { replies := l.replies.tail, clients := greet good l.clients } ↔ l.IsOpen) := by
    unfold IsOpen
    rcases l.clients with - | ⟨⟨- | welcomed, closed⟩, rest⟩ <;> simp [greet]
  cases c with
  | client => exact absurd rfl hc.1
  | clientWith => exact absurd rfl hc.1
  | close => exact absurd rfl hc.2
  | get => exact hgreet _
  | info => exact hgreet _
  | _ => exact ⟨rfl, Iff.rfl⟩

/-- Where a client is to be made, there is a new one or all are as before. -/
theorem construct_cases (l : Ledger) (kind : ClientKind) :
    (∃ replies, l.construct kind = { replies, clients := {} :: l.clients }) ∨
      ∃ replies, l.construct kind = { replies, clients := l.clients } := by
  unfold construct
  split
  · split
    · exact .inl ⟨_, rfl⟩
    · exact .inr ⟨_, rfl⟩
  · exact .inl ⟨_, rfl⟩

/-- A call that is no close makes a client, or leaves open what is open. -/
theorem note_cases (l : Ledger) {c : Call} (hc : c ≠ .close) :
    (∃ replies, l.note c = { replies, clients := {} :: l.clients }) ∨
      (l.note c).clients.length = l.clients.length ∧ ((l.note c).IsOpen ↔ l.IsOpen) := by
  have hmaking (kind : ClientKind) (hnote : l.note c = l.construct kind) :
      (∃ replies, l.note c = { replies, clients := {} :: l.clients }) ∨
        (l.note c).clients.length = l.clients.length ∧ ((l.note c).IsOpen ↔ l.IsOpen) := by
    rw [hnote]
    obtain hmade | ⟨replies, hsame⟩ := l.construct_cases kind
    · exact .inl hmade
    · exact .inr (by rw [hsame]; exact ⟨rfl, Iff.rfl⟩)
  by_cases hconnecting : c.purpose = .connecting
  · cases c with
    | client => exact hmaking .http rfl
    | clientWith arguments => exact hmaking .openSearch rfl
    | _ => cases hconnecting
  · exact .inr (l.note_other ⟨hconnecting, hc⟩)

/-- Behind a call the latest client is open if the call made it, or if it was open before and the
call is no close. -/
theorem isOpen_note (l : Ledger) (c : Call) :
    (l.note c).IsOpen ↔ l.Makes c ∨ c ≠ .close ∧ l.IsOpen := by
  by_cases hc : c = .close
  · subst hc
    have hmakes : ¬ l.Makes .close := by
      unfold Makes
      rcases hclients : l.clients with - | ⟨c, rest⟩ <;> simp [note, close, hclients]
    have hclosed : ¬ (l.note .close).IsOpen := not_isOpen_close _ _
    simp [hclosed, hmakes]
  · obtain ⟨replies, hmade⟩ | ⟨hlength, hsame⟩ := l.note_cases hc
    · have hmakes : l.Makes c := by simp [Makes, hmade]
      simp [hmakes, hmade, isOpen_made]
    · have hmakes : ¬ l.Makes c := by simp [Makes, hlength]
      simp [hmakes, hc, hsame]

theorem leaveOpen_snoc (replies : List Reply) (calls : List Call) (c : Call) :
    LeaveOpen replies (calls ++ [c]) ↔
      (calls.foldl note { replies }).Makes c ∨ c ≠ .close ∧ LeaveOpen replies calls := by
  constructor
  · rintro ⟨before, made, behind, hcalls, hmakes, hbehind⟩
    rcases List.eq_nil_or_concat' behind with rfl | ⟨behind, d, rfl⟩
    · obtain ⟨rfl, hmade⟩ := List.append_inj' hcalls rfl
      obtain rfl : c = made := List.singleton_inj.mp hmade
      exact .inl hmakes
    · rw [← List.cons_append, ← List.append_assoc] at hcalls
      obtain ⟨rfl, hlast⟩ := List.append_inj' hcalls rfl
      obtain rfl : c = d := List.singleton_inj.mp hlast
      rw [List.mem_append, List.mem_singleton, not_or] at hbehind
      exact .inr ⟨Ne.symm hbehind.2, before, made, behind, rfl, hmakes, hbehind.1⟩
  · rintro (hmakes | ⟨hc, before, made, behind, rfl, hmakes, hbehind⟩)
    · exact ⟨calls, c, [], rfl, hmakes, List.not_mem_nil⟩
    · refine ⟨before, made, behind ++ [c], by simp, hmakes, ?_⟩
      rw [List.mem_append, List.mem_singleton, not_or]
      exact ⟨hbehind, Ne.symm hc⟩

theorem leaveOpen_iff (replies : List Reply) (calls : List Call) :
    LeaveOpen replies calls ↔ (calls.foldl note { replies }).IsOpen := by
  induction calls using List.reverseRecOn with
  | nil =>
    constructor
    · rintro ⟨before, made, behind, hcalls, -⟩
      cases before <;> cases hcalls
    · rintro ⟨c, rest, hclients, -⟩
      cases hclients
  | append_singleton calls c ih =>
    rw [leaveOpen_snoc, List.foldl_append, List.foldl_cons, List.foldl_nil, isOpen_note, ih]

end Ledger

/-! ## What steps do with an open client -/

/-- A request or a close; it goes to a client that is open. -/
def Call.NeedsClient (c : Call) : Prop := c.isRequest = true ∨ c = .close

/-- Every one of the calls that needs an open client finds one. -/
def Ledger.Serves : Ledger → List Call → Prop
  | _, [] => True
  | l, c :: calls => (c.NeedsClient → l.IsOpen) ∧ (l.note c).Serves calls

namespace Ledger

theorem serves_append (l : Ledger) (calls more : List Call) :
    l.Serves (calls ++ more) ↔ l.Serves calls ∧ (calls.foldl note l).Serves more := by
  induction calls generalizing l with
  | nil => simp [Serves]
  | cons c calls ih => simp [Serves, ih, and_assoc]

/-- The ledger agrees with what is known of the outside, and of the client of the engine. -/
structure Fits (l : Ledger) (hasClient : Bool) (w : World) : Prop where
  replies : l.replies = w.replies
  isOpen : l.IsOpen ↔ hasClient = true

end Ledger

/-- The calls between two moments keep to the open client of an engine, which has a client or not
before them and behind them. -/
def KeepsTo (before : Bool) (w : World) (behind : Bool) (w' : World) : Prop :=
  ∃ calls, w'.calls = w.calls ++ calls ∧ ∀ l : Ledger, l.Fits before w →
    l.Serves calls ∧ (calls.foldl Ledger.note l).Fits behind w'

namespace KeepsTo

variable {before middle behind : Bool} {w w' w'' : World}

theorem still (hcalls : w'.calls = w.calls) (hreplies : w'.replies = w.replies) :
    KeepsTo before w before w' :=
  ⟨[], by rw [hcalls, List.append_nil],
    fun _ hl => ⟨trivial, hl.replies.trans hreplies.symm, hl.isOpen⟩⟩

theorem step {c : Call} (hcalls : w'.calls = w.calls ++ [c])
    (hserved : c.NeedsClient → before = true)
    (hnote : ∀ l : Ledger, l.Fits before w → (l.note c).Fits behind w') :
    KeepsTo before w behind w' :=
  ⟨[c], hcalls, fun l hl => ⟨⟨fun hc => hl.isOpen.mpr (hserved hc), trivial⟩, hnote l hl⟩⟩

theorem trans (hfirst : KeepsTo before w middle w') (hsecond : KeepsTo middle w' behind w'') :
    KeepsTo before w behind w'' := by
  obtain ⟨calls, hcalls, hkeeps⟩ := hfirst
  obtain ⟨more, hmore, hkeeps'⟩ := hsecond
  refine ⟨calls ++ more, by rw [hmore, hcalls, List.append_assoc], fun l hl => ?_⟩
  obtain ⟨hserved, hfits⟩ := hkeeps l hl
  obtain ⟨hserved', hfits'⟩ := hkeeps' _ hfits
  rw [Ledger.serves_append, List.foldl_append]
  exact ⟨⟨hserved, hserved'⟩, hfits'⟩

end KeepsTo

theorem path_keepsTo : Path (fun w w' => KeepsTo true w true w')
    fun p => p ≠ .connecting ∧ p ≠ .closing where
  refl _ := KeepsTo.still rfl rfl
  trans := KeepsTo.trans
  told _ _ _ _ := KeepsTo.still rfl rfl
  called c hc hrequest w := by
    refine KeepsTo.step (c := c) rfl (fun _ => rfl) fun l hl => ?_
    have hsame : l.note c = l := by
      cases c <;> simp [Call.isRequest, Call.purpose, Ledger.note] at hc hrequest ⊢
    rw [hsame]
    exact ⟨hl.replies, hl.isOpen⟩
  asked c hc hrequest w := by
    rw [World.run_ask]
    refine KeepsTo.step (c := c) rfl (fun _ => rfl) fun l hl => ⟨?_, ?_⟩
    · have htaken : (l.note c).replies = l.replies.tail := by
        cases c <;> simp [Call.isRequest, Ledger.note] at hrequest ⊢
      rw [htaken, hl.replies]
      rfl
    · have hclose : c ≠ .close := fun h => hc.2 (by rw [h]; rfl)
      exact (l.note_other ⟨hc.1, hclose⟩).2.trans hl.isOpen
  made hconnecting := absurd rfl hconnecting.1

/-! ## Opening and closing -/

theorem KeepsTo.greeted {c : Call} (hc : c.purpose = .looking) (hrequest : c.isRequest = true)
    (w : World) : KeepsTo true w true (w.asked c) := by
  have hasked := path_keepsTo.asked c (by rw [hc]; decide) hrequest w
  rwa [World.run_ask] at hasked

/-- Behind the making of a client it is open, unless that was refused. -/
theorem keepsTo_constructed (kind : ClientKind) {c : Call} (hmaking : c.purpose = .connecting)
    (hnote : ∀ l : Ledger, l.note c = l.construct kind) (live : Bool) (w : World) :
    KeepsTo live w (if (w.refusal? kind).isSome then live else true) (w.constructed kind c) := by
  refine .step rfl (fun hc => ?_) fun l hl => ?_
  · rcases hc with hc | rfl
    · cases c <;> simp [Call.isRequest, Call.purpose] at hc hmaking
    · cases hmaking
  · obtain ⟨replies, clients⟩ := l
    obtain ⟨hreplies, hopen⟩ := hl
    have hreplies : replies = w.replies := hreplies
    have hreply : w.replies.head?.filter (·.making == some kind) = w.construction? kind := rfl
    subst hreplies
    have hmade (replies : List Reply) (w' : World) (h : replies = w'.replies) :
        Ledger.Fits { replies, clients := {} :: clients } true w' :=
      ⟨h, iff_of_true (Ledger.isOpen_made _ _) rfl⟩
    rw [hnote]
    unfold Ledger.construct World.refusal? World.constructed
    dsimp only
    rw [hreply]
    -- There is a reply for the making of the client or not, and it is a failure or not.
    rcases w.construction? kind with - | ⟨⟨failure⟩ | ⟨status, body, undecodable⟩, making⟩
    · exact hmade _ _ rfl
    · exact ⟨rfl, hopen⟩
    · exact hmade _ _ rfl

theorem Solr.keepsTo_start (s : Solr) (w : World) :
    KeepsTo s.live w (s.start.run w).1.2.live (s.start.run w).2 := by
  rw [run_start]
  cases hopening : s.opening with
  | error fault => exact .still rfl rfl
  | ok opening =>
    obtain ⟨limit, credentials, rfl⟩ := s.opening_eq_ok hopening
    have hmade := keepsTo_constructed .http
      (c := .client s.address limit credentials) rfl (fun _ => rfl) s.live w
    dsimp only
    cases hrefusal : w.refusal? .http with
    | some failure =>
      rw [hrefusal] at hmade
      exact hmade
    | none =>
      rw [hrefusal] at hmade
      have hasked := hmade.trans (.greeted (c := .get s.pingPath) rfl rfl _)
      dsimp only
      rw [run_greet]
      cases (w.constructed .http _).outcome.accepted? with
      | error failure => exact hasked
      | ok answer => exact hasked.trans (.still rfl rfl)

theorem OpenSearch.keepsTo_start (o : OpenSearch) (w : World) :
    KeepsTo o.live w (o.start.run w).1.2.live (o.start.run w).2 := by
  have hmade := keepsTo_constructed .openSearch (c := o.opening) rfl (fun _ => rfl) o.live w
  rw [run_start]
  cases w.hasOpenSearch with
  | false => exact .still rfl rfl
  | true =>
    rw [Bool.not_true, if_neg Bool.false_ne_true]
    cases hrefusal : w.refusal? .openSearch with
    | some failure =>
      rw [hrefusal] at hmade
      exact hmade
    | none =>
      rw [hrefusal] at hmade
      have hasked := hmade.trans (.greeted (c := .info) rfl rfl _)
      dsimp only
      rw [run_greet]
      cases welcome (w.constructed .openSearch o.opening).outcome with
      | error fault => exact hasked
      | ok cluster => exact hasked.trans (.still rfl rfl)

namespace Engine

theorem keepsTo_close {live : Bool} {w w' : World}
    (hcalls : w'.calls = w.calls ++ if live then [.close] else [])
    (hreplies : w'.replies = w.replies) : KeepsTo live w false w' := by
  cases live with
  | false => exact .still (by simpa using hcalls) hreplies
  | true =>
    exact .step hcalls (fun _ => rfl) fun l hl =>
      ⟨hl.replies.trans hreplies.symm, iff_of_false (Ledger.not_isOpen_close _ _) nofun⟩

/-- Opening and closing, at any time, make and close clients in order. -/
theorem keepsTo_start {e : Engine} (he : e.kind ≠ .shelf) (w : World) :
    KeepsTo e.hasClient w (e.start.run w).1.2.hasClient (e.start.run w).2 := by
  cases e with
  | solr s => exact s.keepsTo_start w
  | openSearch o => exact o.keepsTo_start w
  | shelf => exact absurd rfl he

theorem keepsTo_stop {e : Engine} (he : e.kind ≠ .shelf) (w : World) :
    KeepsTo e.hasClient w (e.stop.run w).1.2.hasClient (e.stop.run w).2 := by
  rw [Registry.run_stop]
  cases e with
  | solr s => exact keepsTo_close rfl rfl
  | openSearch o => exact keepsTo_close rfl rfl
  | shelf => exact absurd rfl he

/-! ## Requests -/

/-- The service that an engine asks. A shelf asks none. -/
def service : Engine → String
  | .solr _ => "Solr"
  | .openSearch _ => "OpenSearch"
  | .shelf _ => ""

section

variable {e : Engine} (he : e.kind ≠ .shelf) (hclosed : e.hasClient = false) (r : Request)
  (w : World)
include he hclosed

theorem run_execute_refused :
    (e.execute r).run.run w = (.error (.noClient e.service), w.reached (.search r)) := by
  rw [run_execute]
  cases e with
  | solr s => exact Solr.run_execute_closed r _ hclosed
  | openSearch o => exact OpenSearch.run_execute_closed r _ hclosed
  | shelf => exact absurd rfl he

theorem run_count_refused :
    (e.count r).run.run w = (.error (.noClient e.service), w.reached (.count r)) := by
  rw [run_count]
  cases e with
  | solr s => exact Solr.run_count_closed r _ hclosed
  | openSearch o => exact OpenSearch.run_count_closed r _ hclosed
  | shelf => exact absurd rfl he

theorem run_search_refused :
    (e.search r).run.run w = (.error (.noClient e.service), w.reached (.search r)) := by
  unfold search
  rw [run_bind, run_execute_refused he hclosed]

theorem run_stop_idle : e.stop.run w = ((.ok (), e), w) := by
  rw [Registry.run_stop]
  cases e with
  | solr s =>
    obtain ⟨address, collection, username, password, timeout, defaultField, live⟩ := s
    obtain rfl : live = false := hclosed
    simp [Registry.stopped, Registry.farewell]
  | openSearch o =>
    obtain ⟨hosts, indexPattern, username, password, certs, timeout, defaultField, extra, live⟩ := o
    obtain rfl : live = false := hclosed
    simp [Registry.stopped, Registry.farewell]
  | shelf => exact absurd rfl he

end

/-- What an engine asks goes to its client. Without one it asks nothing. -/
theorem keepsTo_asking {e : Engine} {p : Step α}
    (hopen : Along (fun w w' => KeepsTo true w true w') p.run)
    (hclosed : e.hasClient = false → ∀ w, (p.run.run w).2.calls = w.calls ∧
      (p.run.run w).2.replies = w.replies) (w : World) :
    KeepsTo e.hasClient w e.hasClient (p.run.run w).2 := by
  cases h : e.hasClient with
  | true => exact hopen w
  | false => exact .still (hclosed h w).1 (hclosed h w).2

theorem along_execute (e : Engine) (r : Request) :
    Along (fun w w' => KeepsTo true w true w') (e.execute r).run :=
  path_keepsTo.next (path_keepsTo.plain fun _ => .still rfl rfl) fun _ =>
    path_keepsTo.executeReached ⟨by decide, by decide⟩ e r

theorem along_count (e : Engine) (r : Request) :
    Along (fun w w' => KeepsTo true w true w') (e.count r).run :=
  path_keepsTo.next (path_keepsTo.plain fun _ => .still rfl rfl) fun _ =>
    path_keepsTo.countReached ⟨by decide, by decide⟩ e r

/-! ## Tasks -/

/-- What an engine is told to do. -/
inductive Task where
  | start
  | stop
  | execute (r : Request)
  | count (r : Request)
  | search (r : Request)
  | examine

/-- Does a task, well or not, and tells the engine that is left. -/
def Task.run : Task → Engine → Act Engine
  | .start, e => do return (← e.start).2
  | .stop, e => do return (← e.stop).2
  | .execute r, e => do
    let _ ← (e.execute r).run
    return e
  | .count r, e => do
    let _ ← (e.count r).run
    return e
  | .search r, e => do
    let _ ← (e.search r).run
    return e
  | .examine, e => do
    let _ ← e.health.run
    return e

/-- Engine and outside after some tasks. A task that fails does not stop the next ones. -/
def after (e : Engine) (w : World) (tasks : List Task) : Engine × World :=
  tasks.foldl (fun (e, w) t => (t.run e).run w) (e, w)

theorem kind_run (t : Task) (e : Engine) (w : World) : ((t.run e).run w).1.kind = e.kind := by
  cases t with
  | start => cases e <;> rfl
  | stop => cases e <;> rfl
  | _ => rfl

/-- One task, whatever it is and whatever comes of it, keeps to the open client. -/
theorem keepsTo_run {e : Engine} (he : e.kind ≠ .shelf) (t : Task) (w : World) :
    KeepsTo e.hasClient w ((t.run e).run w).1.hasClient ((t.run e).run w).2 := by
  cases t with
  | start => exact keepsTo_start he w
  | stop => exact keepsTo_stop he w
  | execute r =>
    refine keepsTo_asking (e.along_execute r) (fun hclosed w => ?_) w
    rw [run_execute_refused he hclosed]
    exact ⟨rfl, rfl⟩
  | count r =>
    refine keepsTo_asking (e.along_count r) (fun hclosed w => ?_) w
    rw [run_count_refused he hclosed]
    exact ⟨rfl, rfl⟩
  | search r =>
    have hsearch : Along (fun w w' => KeepsTo true w true w') (e.search r).run :=
      path_keepsTo.next (e.along_execute r) fun raw =>
        path_keepsTo.collect fun _ => path_keepsTo.checked _
    refine keepsTo_asking hsearch (fun hclosed w => ?_) w
    rw [run_search_refused he hclosed]
    exact ⟨rfl, rfl⟩
  | examine =>
    refine keepsTo_asking (path_keepsTo.health ⟨by decide, by decide⟩ e) (fun hclosed w => ?_) w
    rw [run_health, checked_closed he hclosed]
    exact ⟨rfl, rfl⟩

theorem kind_after (e : Engine) (w : World) (tasks : List Task) :
    (e.after w tasks).1.kind = e.kind := by
  induction tasks generalizing e w with
  | nil => rfl
  | cons t tasks ih => exact (ih _ _).trans (kind_run t e w)

theorem keepsTo_after {e : Engine} (he : e.kind ≠ .shelf) (w : World) (tasks : List Task) :
    KeepsTo e.hasClient w (e.after w tasks).1.hasClient (e.after w tasks).2 := by
  induction tasks generalizing e w with
  | nil => exact .still rfl rfl
  | cons t tasks ih =>
    exact (keepsTo_run he t w).trans (ih (by rwa [kind_run]) _)

end Engine

/-! ## Engines that were made -/

theorem Solr.live_ofArguments {args : List (Value × Value)} {s : Solr}
    (h : ofArguments args = .ok s) : s.live = false := by
  unfold ofArguments at h
  dsimp only at h
  split at h
  · cases h
  · cases haddress :
      addressOf ((Value.field? "base_url" args).getD (.text ({} : Solr).address)) with
    | error fault =>
      rw [haddress] at h
      cases h
    | ok address =>
      rw [haddress] at h
      cases h
      rfl

theorem OpenSearch.live_ofArguments {args : List (Value × Value)} {o : OpenSearch}
    (h : ofArguments args = .ok o) : o.live = false := by
  unfold ofArguments at h
  dsimp only at h
  split at h
  · cases h
  · cases h
    rfl

/-- What a step makes of the result of another comes from that result. -/
theorem exists_of_run_ok {β : Type} {p : Step α} {f : α → β} {b : β} {w w' : World}
    (h : (p >>= fun a => pure (f a)).run.run w = (.ok b, w')) :
    ∃ a, (p.run.run w).1 = .ok a ∧ b = f a := by
  rw [run_bind] at h
  rcases hp : p.run.run w with ⟨outcome, w''⟩
  rw [hp] at h
  cases outcome with
  | ok a =>
    cases h
    exact ⟨a, rfl, rfl⟩
  | error fault => cases h

/-- An engine that was made has no client yet. -/
theorem EngineKind.hasClient_make {kind : EngineKind} {args : List (Value × Value)} {e : Engine}
    {w w' : World} (hmade : (kind.make args).run.run w = (.ok e, w')) : e.hasClient = false := by
  cases kind with
  | solr =>
    obtain ⟨s, hs, rfl⟩ := exists_of_run_ok hmade
    exact Solr.live_ofArguments hs
  | openSearch =>
    obtain ⟨o, ho, rfl⟩ := exists_of_run_ok hmade
    exact OpenSearch.live_ofArguments ho
  | shelf =>
    obtain ⟨s, -, rfl⟩ := exists_of_run_ok hmade
    rfl

/-! ## The law of clients -/

namespace Engine

open Ledger

/-- How an engine behaves that came to these calls, with these replies at hand. -/
structure MindsClients (e : Engine) (w : World) (replies : List Reply) (calls : List Call) :
    Prop where
  /-- A request or a close comes behind the making of a client, and no close is between them. -/
  served (before : List Call) (c : Call) (behind : List Call) :
    calls = before ++ c :: behind → c.NeedsClient → LeaveOpen replies before
  /-- The engine has a client if its calls leave one open. -/
  known : e.hasClient = true ↔ LeaveOpen replies calls
  /-- Without an open client every request ends in a fault of the engine, and no call is made. -/
  refused : ¬ LeaveOpen replies calls → ∀ r,
    (e.execute r).run.run w = (.error (.noClient e.service), w.reached (.search r)) ∧
    (e.count r).run.run w = (.error (.noClient e.service), w.reached (.count r)) ∧
    (e.search r).run.run w = (.error (.noClient e.service), w.reached (.search r))
  /-- Without an open client closing does nothing. -/
  idle : ¬ LeaveOpen replies calls → e.stop.run w = ((.ok (), e), w)

theorem fits_start {e : Engine} (hclosed : e.hasClient = false) (w : World) :
    Ledger.Fits { replies := w.replies } e.hasClient w := by
  refine ⟨rfl, iff_of_false ?_ (by simp [hclosed])⟩
  rintro ⟨c, rest, hclients, -⟩
  cases hclients

theorem mindsClients {e e' : Engine} {w w' : World} (he' : e'.kind ≠ .shelf)
    (hclosed : e.hasClient = false) (h : KeepsTo e.hasClient w e'.hasClient w') :
    ∃ calls, w'.calls = w.calls ++ calls ∧ e'.MindsClients w' w.replies calls := by
  obtain ⟨calls, hcalls, hkeeps⟩ := h
  obtain ⟨hserves, hfits⟩ := hkeeps _ (fits_start hclosed w)
  have hknown : e'.hasClient = true ↔ LeaveOpen w.replies calls :=
    hfits.isOpen.symm.trans (leaveOpen_iff _ _).symm
  have hnone (hleft : ¬ LeaveOpen w.replies calls) : e'.hasClient = false := by
    rwa [← hknown, Bool.not_eq_true] at hleft
  refine ⟨calls, hcalls, ?_, hknown, fun hleft r => ?_, fun hleft => ?_⟩
  · rintro before c behind rfl hc
    rw [serves_append] at hserves
    exact (leaveOpen_iff _ _).mpr (hserves.2.1 hc)
  · exact ⟨run_execute_refused he' (hnone hleft) r w', run_count_refused he' (hnone hleft) r w',
      run_search_refused he' (hnone hleft) r w'⟩
  · exact run_stop_idle he' (hnone hleft) w'

/-- An engine of a service, from when it is made on, whatever it is told to do, in any order, and
whatever comes back: requests and closes go to a client that was made and is not closed. Where there
is none, requests are faults and closing does nothing. -/
theorem requests_go_to_open_clients {kind : EngineKind} (hkind : kind ≠ .shelf)
    {args : List (Value × Value)} {e : Engine} {w₀ w : World}
    (hmade : (kind.make args).run.run w₀ = (.ok e, w)) (tasks : List Task) :
    let (e', w') := e.after w tasks
    ∃ calls, w'.calls = w.calls ++ calls ∧ e'.MindsClients w' w.replies calls := by
  have he : e.kind ≠ .shelf := by
    have hmake := kind.run_make args w₀
    rw [hmade] at hmake
    rwa [hmake.1]
  have hend : (e.after w tasks).1.kind ≠ .shelf := by rwa [kind_after]
  exact mindsClients hend (kind.hasClient_make hmade) (keepsTo_after he w tasks)

/-- Solr does not answer, is closed twice, and is then searched. -/
theorem a_search_behind_the_close_is_refused :
    let w : World := { replies := [{ outcome := .failed (.transport "boom") }] }
    let (e, w') := (Engine.solr {}).after w [.start, .count {}, .stop, .stop]
    EngineKind.solr ≠ .shelf ∧ (EngineKind.solr.make []).run.run w = (.ok (.solr {}), w) ∧
      (e.search {}).run.run w' = (.error (.noClient "Solr"), w'.reached (.search {})) ∧
      e.stop.run w' = ((.ok (), e), w') := by
  intro w
  have hmade : (EngineKind.solr.make []).run.run w = (.ok (.solr {}), w) := rfl
  obtain ⟨calls, -, hminds⟩ := requests_go_to_open_clients (by decide) hmade
    [.start, .count {}, .stop, .stop]
  have hnone : ¬ LeaveOpen w.replies calls := fun hleft => nomatch hminds.known.mpr hleft
  exact ⟨by decide, hmade, (hminds.refused hnone {}).2.2, hminds.idle hnone⟩

end Engine

end SearchQuery
