-- What steps do to the outside, told by any relation between the outside before a step and
-- the outside behind it. A relation that goes along reports and along calls of some purposes
-- goes along every step of an engine and of a connection that makes no other calls.
import SearchQuery.Session

namespace SearchQuery

variable {α β : Type}

/-! ## Steps along a relation -/

/-- Whatever the step starts from, it ends in something related to that. -/
def Along (R : World → World → Prop) (p : Act α) : Prop := ∀ w, R w (p.run w).2

/-- What a call is for. -/
inductive Purpose where
  /-- Makes an engine that works without a client. -/
  | making
  /-- Makes a client. -/
  | connecting
  /-- Asks an engine who or how it is. -/
  | looking
  /-- Asks an engine for results or for their number. -/
  | asking
  | closing
  /-- Calls out a record. -/
  | announcing
  deriving DecidableEq

def Call.purpose : Call → Purpose
  | .shelfMade _ => .making
  | .client .. | .clientWith _ => .connecting
  | .get _ | .info | .clusterHealth | .shelfStarted | .shelfHealth => .looking
  | .post .. | .search .. | .count .. | .shelfSearched _ | .shelfCounted _ => .asking
  | .close | .shelfStopped => .closing
  | .found _ => .announcing

/-- The call is a request, for which the next reply is taken. -/
def Call.isRequest : Call → Bool
  | .get _ | .post .. | .info | .search .. | .count .. | .clusterHealth => true
  | _ => false

/-- A relation that goes along reports, and along all calls of some purposes. -/
structure Path (R : World → World → Prop) (allowed : Purpose → Prop) : Prop where
  refl : ∀ w, R w w
  trans : ∀ {u v w}, R u v → R v w → R u w
  told : ∀ level source message, Along R (World.report level source message)
  called : ∀ c, allowed c.purpose → c.isRequest = false → Along R (World.call c)
  asked : ∀ c, allowed c.purpose → c.isRequest = true → Along R (World.ask c)
  made : allowed .connecting → ∀ kind c, c.purpose = .connecting → Along R (World.construct kind c)

/-- What opens a Solr engine is the making of a client. -/
theorem Solr.opening_eq_ok (s : Solr) {c : Call} (h : s.opening = .ok c) :
    ∃ limit credentials, c = .client s.address limit credentials := by
  unfold opening at h
  cases hcredentials : s.credentials? with
  | error fault =>
    rw [hcredentials] at h
    cases h
  | ok credentials =>
    rw [hcredentials] at h
    cases hlimit : replyLimit s.timeout with
    | error fault =>
      rw [hlimit] at h
      cases h
    | ok limit =>
      rw [hlimit] at h
      cases h
      exact ⟨limit, credentials, rfl⟩

namespace Path

variable {R : World → World → Prop} {allowed : Purpose → Prop} (h : Path R allowed)
include h

/-! ## Steps put together -/

theorem done (a : α) : Along R (pure a : Act α) := fun w => h.refl w

theorem look : Along R (get : Act World) := fun w => h.refl w

theorem andThen {p : Act α} {f : α → Act β} (hp : Along R p) (hf : ∀ a, Along R (f a)) :
    Along R (p >>= f) := fun w => h.trans (hp w) (hf (p.run w).1 (p.run w).2)

theorem each {as : List α} {f : α → Act PUnit} (hf : ∀ a, Along R (f a)) :
    Along R (as.forM f) := by
  induction as with
  | nil => exact h.done _
  | cons a as ih => exact h.andThen (hf a) fun _ => ih

/-! The same for steps that can fail. -/

theorem ok (a : α) : Along R (pure a : Step α).run := h.done _

theorem fail (fault : Fault) : Along R (throw fault : Step α).run := h.done _

theorem failed (fault : Fault) (f : α → Step β) :
    Along R ((throw fault : Step α) >>= f).run := h.done _

theorem plain {p : Act α} (hp : Along R p) : Along R (liftM p : Step α).run :=
  h.andThen hp fun _ => h.done _

theorem checked (x : Except Fault α) : Along R (liftM x : Step α).run := h.done _

theorem next {p : Step α} {f : α → Step β} (hp : Along R p.run)
    (hf : ∀ a, Along R (f a).run) : Along R (p >>= f).run := by
  refine h.andThen (p := p.run) (f := ExceptT.bindCont f) hp fun outcome => ?_
  cases outcome with
  | ok a => exact hf a
  | error fault => exact h.done _

theorem collect {as : List α} {f : α → Step β} (hf : ∀ a, Along R (f a).run) :
    Along R (as.mapM f).run := by
  induction as with
  | nil => exact h.ok _
  | cons a as ih =>
    rw [List.mapM_cons]
    exact h.next (hf a) fun b => h.next ih fun bs => h.ok _

/-! ## Making and opening -/

theorem performShelf (s : Shelf) (step : String) {c : Call} (hc : allowed c.purpose)
    (hrequest : c.isRequest = false) : Along R (s.perform step c).run := by
  unfold Shelf.perform
  refine h.next (h.plain (h.called _ hc hrequest)) fun _ => ?_
  split
  · exact h.fail _
  · exact h.ok _

theorem make (hmaking : allowed .making) (kind : EngineKind) (args : List (Value × Value)) :
    Along R (kind.make args).run := by
  cases kind with
  | solr => exact h.next (h.checked _) fun _ => h.ok _
  | openSearch => exact h.next (h.checked _) fun _ => h.ok _
  | shelf =>
    refine h.next ?_ fun _ => h.ok _
    unfold Shelf.ofArguments
    dsimp only
    split
    · exact h.failed _ _
    · refine h.next (h.plain (h.called _ hmaking rfl)) fun _ => ?_
      exact h.next (h.checked _) fun _ => h.ok _

section

variable (hconnecting : allowed .connecting) (hlooking : allowed .looking)
include hconnecting hlooking

theorem startSolr (s : Solr) : Along R s.start := by
  have hgreet (opened : Solr) : Along R opened.greet := by
    unfold Solr.greet
    refine h.andThen (h.asked _ hlooking rfl) fun outcome => ?_
    split
    · exact h.done _
    · exact h.done _
    · exact h.andThen (h.told _ _ _) fun _ => h.done _
  unfold Solr.start
  cases hopening : s.opening with
  | error fault => exact h.done _
  | ok opening =>
    obtain ⟨limit, credentials, hclient⟩ := s.opening_eq_ok hopening
    rw [hclient]
    refine h.andThen (h.made hconnecting .http _ rfl) fun made => ?_
    split
    · exact h.done _
    · exact hgreet _

theorem startOpenSearch (o : OpenSearch) : Along R o.start := by
  unfold OpenSearch.start
  refine h.andThen h.look fun w => ?_
  split
  · exact h.done _
  · refine h.andThen (h.made hconnecting .openSearch _ rfl) fun made => ?_
    split
    · exact h.done _
    · refine h.andThen (h.asked _ hlooking rfl) fun outcome => ?_
      split
      · exact h.done _
      · split
        · exact h.done _
        · exact h.andThen (h.told _ _ _) fun _ => h.done _

theorem start (e : Engine) : Along R e.start := by
  cases e with
  | solr s => exact h.andThen (h.startSolr hconnecting hlooking s) fun _ => h.done _
  | openSearch o => exact h.andThen (h.startOpenSearch hconnecting hlooking o) fun _ => h.done _
  | shelf s => exact h.andThen (h.performShelf s _ hlooking rfl) fun _ => h.done _

variable (hmaking : allowed .making)
include hmaking

theorem opened (r : Registry) (name : String) (args : List (Value × Value)) :
    Along R (r.opened name args).run := by
  unfold Registry.opened
  dsimp only
  split
  · exact h.failed _ _
  · refine h.next (h.checked _) fun kind => ?_
    refine h.next (h.make hmaking kind args) fun made => ?_
    refine h.next (h.plain (h.start hconnecting hlooking made)) fun started => ?_
    exact h.next (h.checked _) fun _ => h.ok _

theorem startNamed (r : Registry) (name : String) (args : List (Value × Value)) :
    Along R (r.start name args) := by
  refine h.andThen (h.opened hconnecting hlooking hmaking r name args) fun outcome => ?_
  cases outcome with
  | error fault => exact h.done _
  | ok e => exact h.andThen (h.told _ _ _) fun _ => h.done _

theorem ready (c : Connection) : Along R c.ready := by
  unfold Connection.ready
  split
  · exact h.done _
  · unfold Connection.start
    dsimp only
    split
    · exact h.done _
    · refine h.andThen (h.startNamed hconnecting hlooking hmaking _ _ _) fun started => ?_
      split
      · exact h.done _
      · exact h.andThen (h.told _ _ _) fun _ => h.done _

end

/-! ## Asking -/

theorem selectSolr {s : Solr} {r : Request} {body : Value}
    (hask : Along R (World.ask (.post ("/" ++ (s.collectionOf r).display ++ "/select") body))) :
    Along R (s.select r body).run := by
  unfold Solr.select
  dsimp only
  split
  · exact h.failed _ _
  · refine h.next (h.plain hask) fun outcome => ?_
    split
    · exact h.fail _
    · exact h.fail _
    · exact h.fail _
    · exact h.checked _

theorem executeOpenSearch {o : OpenSearch} {r : Request}
    (hask : ∀ body, o.searchBody r = .ok body →
      Along R (World.ask (.search (o.indexOf r) body))) : Along R (o.execute r).run := by
  unfold OpenSearch.execute
  dsimp only
  split
  · exact h.failed _ _
  · cases hbody : o.searchBody r with
    | error fault => exact h.failed _ _
    | ok body =>
      show Along R (do
        let outcome ← World.ask (.search (o.indexOf r) body)
        OpenSearch.resultsOf (← OpenSearch.bodyOf "query" outcome) : Step RawResults).run
      refine h.next (h.plain (hask body hbody)) fun outcome => ?_
      exact h.next (h.checked _) fun answer => h.checked _

theorem countOpenSearch {o : OpenSearch} {r : Request}
    (hask : Along R (World.ask (.count (o.indexOf r) (o.countBody r)))) :
    Along R (o.count r).run := by
  unfold OpenSearch.count
  dsimp only
  split
  · exact h.failed _ _
  · refine h.next (h.plain hask) fun outcome => ?_
    refine h.next (h.checked _) fun answer => ?_
    exact h.next (h.checked _) fun number => h.checked _

section

variable (hasking : allowed .asking)
include hasking

/-- What an engine does with a search that has reached it. -/
theorem executeReached (e : Engine) (r : Request) :
    Along R (match e with
      | .solr s => s.execute r
      | .openSearch o => o.execute r
      | .shelf s => s.execute r).run := by
  cases e with
  | solr s => exact h.next (h.selectSolr (h.asked _ hasking rfl)) fun _ => h.checked _
  | openSearch o => exact h.executeOpenSearch fun _ _ => h.asked _ hasking rfl
  | shelf s =>
    refine h.next (h.performShelf s _ hasking rfl) fun _ => ?_
    exact h.next (h.checked _) fun documents => h.checked _

/-- What an engine does with a count that has reached it. -/
theorem countReached (e : Engine) (r : Request) :
    Along R (match e with
      | .solr s => s.count r
      | .openSearch o => o.count r
      | .shelf s => s.count r).run := by
  cases e with
  | solr s => exact h.next (h.selectSolr (h.asked _ hasking rfl)) fun _ => h.checked _
  | openSearch o => exact h.countOpenSearch (h.asked _ hasking rfl)
  | shelf s =>
    refine h.next (h.performShelf s _ hasking rfl) fun _ => ?_
    exact h.next (h.checked _) fun documents => h.ok _

end

/-- A search goes along if what the engine does with it does. -/
theorem searching {e : Engine} {r : Request} (hreceived : Along R (World.receive (.search r)))
    (hreached : Along R (match e with
      | .solr s => s.execute r
      | .openSearch o => o.execute r
      | .shelf s => s.execute r).run) : Along R (e.searchNoted r).run := by
  refine h.next (h.plain (h.told _ _ _)) fun _ => ?_
  have hexecute : Along R (e.execute r).run := h.next (h.plain hreceived) fun _ => hreached
  exact h.next hexecute fun raw => h.collect fun _ => h.checked _

/-- A count goes along if what the engine does with it does. -/
theorem counting {e : Engine} {r : Request} (hreceived : Along R (World.receive (.count r)))
    (hreached : Along R (match e with
      | .solr s => s.count r
      | .openSearch o => o.count r
      | .shelf s => s.count r).run) : Along R (e.countNoted r).run := by
  refine h.next (h.plain (h.told _ _ _)) fun _ => ?_
  exact h.next (h.plain hreceived) fun _ => hreached

section

variable (hasking : allowed .asking) (hreceived : ∀ x, Along R (World.receive x))
include hasking hreceived

theorem searchNoted (e : Engine) (r : Request) : Along R (e.searchNoted r).run :=
  h.searching (hreceived _) (h.executeReached hasking e r)

theorem countNoted (e : Engine) (r : Request) : Along R (e.countNoted r).run :=
  h.counting (hreceived _) (h.countReached hasking e r)

end

theorem health (hlooking : allowed .looking) (e : Engine) : Along R e.health.run := by
  cases e with
  | solr s =>
    have hhealth : Along R s.health := by
      unfold Solr.health
      split
      · exact h.done _
      · refine h.andThen (h.asked _ hlooking rfl) fun outcome => ?_
        split <;> exact h.done _
    exact h.plain hhealth
  | openSearch o =>
    have hhealth : Along R o.health := by
      unfold OpenSearch.health
      split
      · exact h.done _
      · refine h.andThen (h.asked _ hlooking rfl) fun outcome => ?_
        split
        · exact h.done _
        · split <;> exact h.done _
    exact h.plain hhealth
  | shelf s => exact h.next (h.performShelf s _ hlooking rfl) fun _ => h.ok _

/-- Calling out records. -/
theorem announce (hannouncing : allowed .announcing) (type : RecordType)
    (records : List Record) : Along R (Session.announce type records) := by
  unfold Session.announce
  split
  · exact h.done _
  · exact h.each fun _ => h.called _ hannouncing rfl

end Path

end SearchQuery
