-- The clients of engines, told from calls and replies alone: which were made, whether the
-- engine welcomed them, and how often they were closed.
import SearchQuery.Proofs.Exchanges
import SearchQuery.Proofs.StepPaths

namespace SearchQuery

/-! ## Reading calls -/

/-- A client, as far as calls and replies tell. -/
structure Client where
  /-- Whether the engine gave a good answer to the first request; nothing before that. -/
  welcomed : Option Bool := none
  /-- How often the client was closed. -/
  closed : Nat := 0
  deriving DecidableEq, Repr

/-- What some calls lead to. -/
structure Ledger where
  /-- The replies that are still to come. -/
  replies : List Reply
  /-- The clients that were made, the latest one first. -/
  clients : List Client := []

namespace Ledger

/-- The outcome of the next request. -/
def outcome (l : Ledger) : Outcome := (l.replies.head?.getD Reply.empty).outcome

/-- The engine is there for a client of Solr. -/
def isWelcome (outcome : Outcome) : Bool :=
  match outcome.accepted? with
  | .ok _ => true
  | .error _ => false

/-- The engine is there for a client of OpenSearch, and tells who it is. -/
def isIntroduction (outcome : Outcome) : Bool :=
  match outcome.body? with
  | .error _ => false
  | .ok answer =>
    match OpenSearch.clusterOf answer with
    | .ok _ => true
    | .error _ => false

/-- The first request of the latest client tells whether it is welcome; the others do not. -/
def greet (good : Bool) : List Client → List Client
  | { welcomed := none, closed } :: rest => { welcomed := some good, closed } :: rest
  | clients => clients

/-- A client is made. It takes a reply only if that is meant for this, and there is no client
then if the reply is a failure. -/
def construct (l : Ledger) (kind : ClientKind) : Ledger :=
  match l.replies.head?.filter (·.making == some kind) with
  | some reply =>
    match reply.outcome.body? with
    | .ok _ => { replies := l.replies.tail, clients := {} :: l.clients }
    | .error _ => { l with replies := l.replies.tail }
  | none => { l with clients := {} :: l.clients }

/-- Only the latest client can be open. -/
def close : List Client → List Client
  | c :: rest => { c with closed := c.closed + 1 } :: rest
  | [] => []

/-- Reads one call. -/
def note (l : Ledger) : Call → Ledger
  | .client .. => l.construct .http
  | .clientWith _ => l.construct .openSearch
  | .get _ => { replies := l.replies.tail, clients := greet (isWelcome l.outcome) l.clients }
  | .info => { replies := l.replies.tail, clients := greet (isIntroduction l.outcome) l.clients }
  | .post .. | .search .. | .count .. | .clusterHealth => { l with replies := l.replies.tail }
  | .close => { l with clients := close l.clients }
  | .shelfMade _ | .shelfStarted | .shelfStopped | .shelfHealth | .shelfSearched _
  | .shelfCounted _ | .found _ => l

/-- The clients of some calls that found these replies. -/
def clientsOf (replies : List Reply) (calls : List Call) : List Client :=
  (calls.foldl note { replies }).clients

end Ledger

/-! ## What steps do to clients -/

/-- The calls between two moments lead from some clients to others. -/
def Leads (clients : List Client) (w : World) (clients' : List Client) (w' : World) : Prop :=
  ∃ calls, w'.calls = w.calls ++ calls ∧
    calls.foldl Ledger.note { replies := w.replies, clients } =
      { replies := w'.replies, clients := clients' }

namespace Leads

variable {clients clients' clients'' : List Client} {w w' w'' : World}

theorem still (hcalls : w'.calls = w.calls) (hreplies : w'.replies = w.replies) :
    Leads clients w clients w' :=
  ⟨[], by rw [hcalls, List.append_nil], by rw [hreplies]; rfl⟩

theorem step {c : Call} (hcalls : w'.calls = w.calls ++ [c])
    (hnote : Ledger.note { replies := w.replies, clients } c =
      { replies := w'.replies, clients := clients' }) : Leads clients w clients' w' :=
  ⟨[c], hcalls, hnote⟩

theorem trans (hfirst : Leads clients w clients' w') (hsecond : Leads clients' w' clients'' w'') :
    Leads clients w clients'' w'' := by
  obtain ⟨calls, hcalls, hled⟩ := hfirst
  obtain ⟨more, hmore, hled'⟩ := hsecond
  refine ⟨calls ++ more, by rw [hmore, hcalls, List.append_assoc], ?_⟩
  rw [List.foldl_append, hled, hled']

/-- All the clients of the calls between two moments. -/
theorem clientsOf (h : Leads [] w clients w') :
    ∃ calls, w'.calls = w.calls ++ calls ∧ Ledger.clientsOf w.replies calls = clients := by
  obtain ⟨calls, hcalls, hled⟩ := h
  exact ⟨calls, hcalls, congrArg Ledger.clients hled⟩

end Leads

/-- Every client has made its first request. -/
def Met (clients : List Client) : Prop := ∀ c ∈ clients, c.welcomed ≠ none

theorem Ledger.greet_met {clients : List Client} (h : Met clients) (good : Bool) :
    greet good clients = clients := by
  rcases clients with - | ⟨⟨- | welcomed, closed⟩, rest⟩
  · rfl
  · exact absurd rfl (h _ List.mem_cons_self)
  · rfl

/-- Nothing but making and closing clients changes clients that have made their first
requests. -/
theorem path_leads {clients : List Client} (h : Met clients) :
    Path (fun w w' => Leads clients w clients w') fun p => p ≠ .connecting ∧ p ≠ .closing where
  refl _ := Leads.still rfl rfl
  trans := Leads.trans
  told _ _ _ _ := Leads.still rfl rfl
  called c hc hrequest w := by
    have hcall : ((World.call c).run w).2 = { w with calls := w.calls ++ [c] } := rfl
    rw [hcall]
    refine Leads.step (c := c) rfl ?_
    cases c <;> simp [Call.isRequest, Call.purpose, Ledger.note] at hc hrequest ⊢
  asked c hc hrequest w := by
    rw [World.run_ask]
    refine Leads.step (c := c) rfl ?_
    cases c <;>
      simp [Call.isRequest, Call.purpose, Ledger.note, World.asked, Ledger.greet_met h]
        at hc hrequest ⊢
  made hconnecting := absurd rfl hconnecting.1

theorem leads_receive (clients : List Client) (x : Received) :
    Along (fun w w' => Leads clients w clients w') (World.receive x) :=
  fun _ => Leads.still rfl rfl

end SearchQuery
