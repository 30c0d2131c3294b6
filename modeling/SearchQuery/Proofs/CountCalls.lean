-- What a count asks an engine for: the documents that a search for the same request would find.
-- The window and the sort of a request have no part in it, neither in the call that is made nor in
-- what the count comes to.
import SearchQuery.Proofs.FreshRequests
import SearchQuery.Proofs.Openings
import SearchQuery.Proofs.SameSearch
import SearchQuery.Proofs.StoredDocuments

namespace SearchQuery

/-! ## What a call asks for -/

/-- Where documents are looked for, and which. -/
structure Target where
  /-- The path of a post, or an index. -/
  place : Value
  query : Option Value
  /-- The operator between terms. -/
  operator : Option Value
  /-- The field that terms without a field are searched in. -/
  field : Option Value

/-- The target of a call that asks for documents, read out of its body. -/
def Call.target? : Call → Option Target
  | .post path body =>
    let params := body.at? "params"
    some {
      place := .text path, query := body.at? "query"
      operator := params.bind (·.at? "q.op"), field := params.bind (·.at? "df") }
  | .search index body | .count index body =>
    let words := (body.at? "query").bind (·.at? "query_string")
    some {
      place := index, query := body.at? "query"
      operator := words.bind (·.at? "default_operator")
      field := words.bind (·.at? "default_field") }
  | _ => none

/-- The operator of a request, in words. -/
def Request.operator (r : Request) : Value := .text (if r.fuzzy.isTruthy then "OR" else "AND")

/-- A value that is given and not empty. -/
def Value.given? (v : Value) : Option Value := if v.isTruthy then some v else none

/-- The target of a request in the words of a service. -/
def Engine.target? (e : Engine) (r : Request) : Option Target :=
  match e with
  | .solr s =>
    some {
      place := .text ("/" ++ (s.collectionOf r).display ++ "/select")
      query := some (r.query.orElse (.text "*:*"))
      operator := some r.operator, field := s.defaultField.given? }
  | .openSearch o =>
    -- A request without a query has no words to put an operator between.
    some {
      place := o.indexOf r, query := some (o.queryOf r)
      operator := r.query.given?.map fun _ => r.operator
      field := r.query.given?.bind fun _ => o.defaultField.given? }
  | .shelf _ => none

/-! ## The calls of Solr -/

namespace Solr

theorem target?_posting (s : Solr) (r : Request) (rest : Fields) {more : Fields}
    (hmore : more.lookup "df" = none) :
    (s.posting r (.ofFields
      ([("query", queryOf r), ("params", s.params r more)] ++ rest))).target? =
      (Engine.solr s).target? r := by
  have hoperator : (s.params r more).at? "q.op" = some r.operator := by
    simp [params, Request.operator]
  have hfield : (s.params r more).at? "df" = s.defaultField.given? := by
    cases hgiven : s.defaultField.isTruthy <;>
      simp [params, Value.given?, hgiven, List.lookup_cons, hmore]
  simp [posting, Call.target?, Engine.target?, List.lookup_cons, hoperator, hfield, queryOf]

theorem target?_search (s : Solr) (r : Request) :
    (s.posting r (s.searchBody r)).target? = (Engine.solr s).target? r := by
  unfold searchBody
  simp only [List.append_assoc]
  exact target?_posting s r _ rfl

theorem target?_count (s : Solr) (r : Request) :
    (s.posting r (s.countBody r)).target? = (Engine.solr s).target? r :=
  target?_posting s r [("limit", .int 0)] rfl

end Solr

/-! ## The calls of OpenSearch -/

namespace OpenSearch

theorem target?_queryOf (o : OpenSearch) (r : Request) {c : Call} {body : Value}
    (hcall : c = .search (o.indexOf r) body ∨ c = .count (o.indexOf r) body)
    (hquery : body.at? "query" = some (o.queryOf r)) :
    c.target? = (Engine.openSearch o).target? r := by
  have hwords (word : String) : ((o.queryOf r).at? "query_string").bind (·.at? word) =
      r.query.given?.bind fun _ =>
        ([("query", r.query), ("default_operator", r.operator)] ++
          if o.defaultField.isTruthy then [("default_field", o.defaultField)] else []).lookup
            word := by
    cases hgiven : r.query.isTruthy <;>
      simp [queryOf, Value.given?, hgiven, List.lookup_cons, Request.operator]
  have htarget : c.target? = some {
      place := o.indexOf r, query := some (o.queryOf r)
      operator := ((o.queryOf r).at? "query_string").bind (·.at? "default_operator")
      field := ((o.queryOf r).at? "query_string").bind (·.at? "default_field") } := by
    rcases hcall with rfl | rfl <;> rw [Call.target?, hquery] <;> rfl
  rw [htarget, hwords, hwords, Engine.target?]
  cases hquery : r.query.isTruthy <;> cases hfield : o.defaultField.isTruthy <;>
    simp [Value.given?, hquery, hfield, List.lookup_cons]

theorem searchBody_cases (o : OpenSearch) (r : Request) :
    (∃ body, o.searchBody r = .ok body ∧ body.at? "query" = some (o.queryOf r)) ∨
      ∃ column ∈ r.sort, ∃ type, column.1.unhashable? = some type ∧
        o.searchBody r = .error (.unhashable type) := by
  unfold searchBody
  obtain ⟨columns, -, hcolumns⟩ | ⟨before, column, after, fault, hsort, -, hcolumn, hfirst⟩ :=
    mapM_cases sortColumn r.sort
  · rw [hcolumns]
    exact Or.inl ⟨_, rfl, by simp⟩
  · rw [hfirst]
    have hmem : column ∈ r.sort := by simp [hsort]
    unfold sortColumn at hcolumn
    cases htype : column.1.unhashable? with
    | none => simp [htype] at hcolumn
    | some type =>
      simp only [htype] at hcolumn
      cases hcolumn
      exact Or.inr ⟨column, hmem, type, htype, rfl⟩

/-- A search for which no body can be made asks for nothing. -/
theorem run_execute_unsent {o : OpenSearch} (hlive : o.live = true) {r : Request} (w : World)
    {fault : Fault} (hbody : o.searchBody r = .error fault) :
    (o.execute r).run.run w = (.error fault, w) := by
  unfold execute
  dsimp only
  rw [hlive, Bool.not_true, if_neg Bool.false_ne_true, hbody]
  rfl

end OpenSearch

/-! ## One count -/

/-- The outside without the notes of what reached an engine; these hold whole requests. -/
def World.unnoted (w : World) : World := { w with received := [] }

@[simp]
theorem World.unnoted_calls (w : World) : w.unnoted.calls = w.calls := rfl

namespace Engine

variable {e : Engine}

/-- A count and a search for one request ask for the same. The count makes one call. The search
makes one too, unless it is to be sorted by something that OpenSearch cannot take for a column. -/
structure BothAskFor (e : Engine) (r : Request) (w : World) (target : Target) : Prop where
  asked : e.target? r = some target
  count : ∃ call total, call.target? = some target ∧
    (e.count r).run.run w = (total, (w.reached (.count r)).asked call)
  search :
    (∃ call found, call.target? = some target ∧
      (e.execute r).run.run w = (found, (w.reached (.search r)).asked call)) ∨
    e.kind = .openSearch ∧ ∃ column ∈ r.sort, ∃ type, column.1.unhashable? = some type ∧
      (e.execute r).run.run w = (.error (.unhashable type), w.reached (.search r))

theorem bothAskFor_target (hopen : e.hasClient = true) (r : Request) (w : World) :
    ∃ target, e.BothAskFor r w target := by
  cases e with
  | solr s =>
    have hcounts := (run_count (.solr s) r w).trans (Solr.run_count hopen r _)
    have hsearches := (run_execute (.solr s) r w).trans (Solr.run_execute hopen r _)
    exact ⟨_, rfl, ⟨_, _, s.target?_count r, hcounts⟩, Or.inl ⟨_, _, s.target?_search r, hsearches⟩⟩
  | openSearch o =>
    have hcount : (o.countBody r).at? "query" = some (o.queryOf r) := by
      simp [OpenSearch.countBody]
    have hcounts := (run_count (.openSearch o) r w).trans (OpenSearch.run_count hopen r _)
    refine ⟨_, rfl, ⟨_, _, o.target?_queryOf r (Or.inr rfl) hcount, hcounts⟩, ?_⟩
    rw [run_execute]
    obtain ⟨body, hbody, hquery⟩ | ⟨column, hcolumn, type, htype, hbody⟩ := o.searchBody_cases r
    · exact Or.inl ⟨_, _, o.target?_queryOf r (Or.inl rfl) hquery,
        OpenSearch.run_execute hopen r _ hbody⟩
    · exact Or.inr ⟨rfl, column, hcolumn, type, htype,
        OpenSearch.run_execute_unsent hopen _ hbody⟩
  | shelf => cases hopen

/-- Where no client is open, a count is a fault and nothing else. -/
theorem run_count_closed (he : e.kind ≠ .shelf) (hclosed : e.hasClient = false) :
    ∃ fault, ∀ r w, (e.count r).run.run w = (.error fault, w.reached (.count r)) := by
  cases e with
  | solr s => exact ⟨_, fun r w => (run_count _ r w).trans (Solr.run_count_closed r _ hclosed)⟩
  | openSearch o =>
    exact ⟨_, fun r w => (run_count _ r w).trans (OpenSearch.run_count_closed r _ hclosed)⟩
  | shelf => exact absurd rfl he

end Engine

/-- Both requests ask for the same documents; they may differ in window and sort. -/
structure Request.Alike (r r' : Request) : Prop where
  index : r'.index = r.index
  query : r'.query = r.query
  fuzzy : r'.fuzzy = r.fuzzy

namespace Engine

variable {e : Engine} (he : e.kind ≠ .shelf) {r r' : Request} (h : r.Alike r') (w : World)
include he h

theorem run_count_alike :
    ((e.count r').run.run w).1 = ((e.count r).run.run w).1 ∧
      ((e.count r').run.run w).2.unnoted = ((e.count r).run.run w).2.unnoted := by
  cases hopen : e.hasClient with
  | false =>
    obtain ⟨fault, hfault⟩ := run_count_closed he hopen
    rw [hfault, hfault]
    exact ⟨rfl, rfl⟩
  | true =>
    obtain ⟨index, query, sort, limit, offset, fuzzy⟩ := r'
    obtain ⟨rfl, rfl, rfl⟩ : index = r.index ∧ query = r.query ∧ fuzzy = r.fuzzy :=
      ⟨h.index, h.query, h.fuzzy⟩
    rw [run_count, run_count]
    -- What is sent for a count is made of the three parts that both have.
    cases e with
    | solr s =>
      dsimp only
      rw [Solr.run_count hopen, Solr.run_count hopen]
      exact ⟨rfl, rfl⟩
    | openSearch o =>
      dsimp only
      rw [OpenSearch.run_count hopen, OpenSearch.run_count hopen]
      exact ⟨rfl, rfl⟩
    | shelf => cases hopen

end Engine

/-! ## Counts of a session -/

/-- A query that was prepared has left its text in the request, and whether it is fuzzy. -/
theorem Spec.agrees_of_prepared {mode : FieldMode} {spec : Spec} {r₀ r : Request} {p : Prepared}
    (h : spec.prepare mode r₀ = (.ok p, r)) :
    Condition.compileWhere mode spec.condition = .ok p.query ∧ p.fuzzy = spec.fuzzy ∧
      p.Agrees r₀ r := by
  obtain ⟨_, _, hcase⟩ | ⟨_, _, _, _, hcase⟩ | ⟨_, _, _, htext, hcase⟩ :=
    spec.prepare_cases mode r₀
  · rw [hcase] at h
    cases h
  · rw [hcase] at h
    cases h
  · rw [hcase] at h
    cases h
    exact ⟨htext, rfl, Prepared.agrees r₀ _⟩

/-- Two queries that differ in sort columns and window alone are prepared to the same text and to
requests that are alike. -/
theorem Spec.prepare_alike {mode : FieldMode} {spec : Spec} {columns : Columns}
    {limit offset : Check.Bound} {r₀ r r' : Request} {p p' : Prepared}
    (hp : spec.prepare mode r₀ = (.ok p, r))
    (hp' : { spec with columns, limit, offset }.prepare mode r₀ = (.ok p', r')) :
    p'.query = p.query ∧ r.Alike r' := by
  obtain ⟨htext, hfuzzy, hagrees⟩ := agrees_of_prepared hp
  obtain ⟨htext', hfuzzy', hagrees'⟩ := agrees_of_prepared hp'
  have hquery : p'.query = p.query := Except.ok.inj (htext'.symm.trans htext)
  refine ⟨hquery, ?_, ?_, ?_⟩
  · rw [hagrees'.index, hagrees.index]
  · rw [hagrees'.query, hagrees.query, hquery]
  · rw [hagrees'.fuzzy, hagrees.fuzzy, hfuzzy', hfuzzy]

theorem World.unnoted_report {w w' : World} (h : w.unnoted = w'.unnoted) (level : Level)
    (source message : String) :
    ((World.report level source message).run w).2.unnoted =
      ((World.report level source message).run w').2.unnoted := by
  have hreport (w : World) : ((World.report level source message).run w).2.unnoted =
      { w.unnoted with events := w.unnoted.events ++ [⟨level, source, message⟩] } := rfl
  rw [hreport, hreport, h]

namespace Session

/-- The outside behind the note of a count. -/
def noted (e : Engine) (r : Request) (w : World) : World :=
  ((World.report .debug Engine.searchSource ("Counting " ++ e.name ++ ": " ++ r.query.shown)).run
    w).2

/-- What a session does behind a count. -/
def counted (query : String) : Except Fault Int × World → Except Fault Int × World
  | (.ok total, w) =>
    (.ok total, ((World.report .debug source
      ("Counted " ++ toString total ++ " documents for " ++ Text.quoted query)).run w).2)
  | (.error fault, w) => (.error fault, w)

/-- A count on a connection that opens, by what the engine does. -/
theorem perform_fetchCount {spec : Spec} {s : Session} {w w' : World} {e : Engine}
    {c : Connection} {p : Prepared} {r : Request}
    (hopens : s.connection.ready.run w = ((.ok e, c), w'))
    (hp : spec.prepare s.mode { index := s.index } = (.ok p, r)) :
    perform (fetchCount spec) s w =
      let ended := counted p.query ((e.count r).run.run (noted e r w'))
      ((ended.1, { s with connection := c, query := some p.query }), ended.2) := by
  have hrun : (e.countNoted r).run.run w' = (e.count r).run.run (noted e r w') := rfl
  unfold fetchCount
  refine (perform_opened (fun e made => do
    let total ← onEngine (e.countNoted made.2)
    World.report .debug source
      ("Counted " ++ toString total ++ " documents for " ++ Text.quoted made.1.query)
    return total) spec s w).trans ?_
  rw [hopens]
  dsimp only
  rw [hp]
  dsimp only
  rw [perform_bind, perform_onEngine, hrun]
  rcases (e.count r).run.run (noted e r w') with ⟨outcome, w''⟩
  cases outcome <;> rfl

theorem counted_unnoted {x y : Except Fault Int × World} (houtcome : x.1 = y.1)
    (hworld : x.2.unnoted = y.2.unnoted) (query : String) :
    (counted query x).1 = (counted query y).1 ∧
      (counted query x).2.unnoted = (counted query y).2.unnoted := by
  obtain ⟨outcome, w⟩ := x
  obtain ⟨_, w'⟩ := y
  cases houtcome
  cases outcome with
  | ok total => exact ⟨rfl, World.unnoted_report hworld _ _ _⟩
  | error fault => exact ⟨rfl, hworld⟩

theorem counted_calls (query : String) (x : Except Fault Int × World) :
    (counted query x).2.calls = x.2.calls := by
  obtain ⟨outcome, w⟩ := x
  cases outcome <;> rfl

/-- With an open client a count asks for what a search for the same request asks for: one call to
the same place, with the same query, operator and default field. Of window and sort it sees nothing.
It comes to the same for all requests that are alike. In a session, whose count makes that one call
too, it comes to the same for all queries that differ in sort columns, limit and offset alone, if
they can be prepared. Nothing is different then, the requests in the notes apart. -/
theorem a_count_sees_neither_window_nor_sort {e : Engine} (he : e.kind ≠ .shelf) :
    (∀ (r : Request) (w : World), e.hasClient = true → ∃ target, e.BothAskFor r w target) ∧
    (∀ (r r' : Request) (w : World), r.Alike r' →
      ((e.count r').run.run w).1 = ((e.count r).run.run w).1 ∧
        ((e.count r').run.run w).2.unnoted = ((e.count r).run.run w).2.unnoted) ∧
    ∀ (s : Session) (w w' : World) (c : Connection) (spec : Spec) (columns : Columns)
      (limit offset : Check.Bound) (p p' : Prepared) (r r' : Request),
      s.connection.ready.run w = ((.ok e, c), w') →
      spec.prepare s.mode { index := s.index } = (.ok p, r) →
      { spec with columns, limit, offset }.prepare s.mode { index := s.index } = (.ok p', r') →
      let run (spec : Spec) := perform (fetchCount spec) s w
      (run { spec with columns, limit, offset }).1 = (run spec).1 ∧
        (run { spec with columns, limit, offset }).2.unnoted = (run spec).2.unnoted ∧
        (e.hasClient = true → ∃ call, call.target? = e.target? r ∧
          (run spec).2.calls = w'.calls ++ [call]) := by
  refine ⟨fun r w hopen => Engine.bothAskFor_target hopen r w,
    fun r r' w h => Engine.run_count_alike he h w, ?_⟩
  intro s w w' c spec columns limit offset p p' r r' hopens hp hp' run
  obtain ⟨hquery, halike⟩ := Spec.prepare_alike hp hp'
  have hnoted : noted e r' w' = noted e r w' := by
    unfold noted
    rw [halike.query]
  obtain ⟨houtcome, hworld⟩ := Engine.run_count_alike he halike (noted e r w')
  obtain ⟨hended, hbehind⟩ := counted_unnoted houtcome hworld p.query
  have hrun := perform_fetchCount hopens hp
  have hrun' := perform_fetchCount hopens hp'
  rw [hnoted, hquery] at hrun'
  simp only [run, hrun, hrun']
  refine ⟨by rw [hended], hbehind, fun hopen => ?_⟩
  obtain ⟨target, hboth⟩ := Engine.bothAskFor_target hopen r (noted e r w')
  obtain ⟨call, total, hcall, hcount⟩ := hboth.count
  refine ⟨call, hcall.trans hboth.asked.symm, ?_⟩
  rw [counted_calls, hcount]
  rfl

/-- On an open Solr the first page of a search counts like the whole, and what is counted is what
the search for the page asks for. -/
theorem the_first_page_counts_like_all :
    let e : Engine := .solr { live := true }
    let s : Session := { connection := { engine := some e } }
    let all : Spec := { condition := some (.literal "title:emma") }
    let page : Spec := { all with
      columns := [("year", .descending)], limit := .number 10, offset := .number 20 }
    let run (spec : Spec) := perform (fetchCount spec) s {}
    e.kind ≠ .shelf ∧ (run page).1 = (run all).1 ∧ (run page).2.calls = (run all).2.calls ∧
      (∃ call, (run all).2.calls = [call]) ∧
      ∃ target, e.BothAskFor { query := .text "title:emma", limit := .int 10 } {} target := by
  intro e s all page run
  have he : e.kind ≠ .shelf := by decide
  obtain ⟨hboth, -, hcount⟩ := a_count_sees_neither_window_nor_sort he
  obtain ⟨houtcome, hworld, hcalls⟩ := hcount s {} {} { engine := some e } all
    [("year", .descending)] (.number 10) (.number 20) _ _ _ _ rfl rfl rfl
  obtain ⟨call, -, hcall⟩ := hcalls rfl
  exact ⟨he, houtcome, by simpa using congrArg World.calls hworld, ⟨call, hcall⟩, hboth _ _ rfl⟩

end Session

end SearchQuery
