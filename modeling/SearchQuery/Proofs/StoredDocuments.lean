-- Documents on their way from an engine to the caller. Results cross the check of the reply,
-- the document that the engine makes of each, and the rows of a session; the fields of every
-- document arrive as they were stored, in the order of the reply.
import Mathlib.Data.List.Forall2
import SearchQuery.Proofs.FreshRequests
import SearchQuery.Proofs.Preparations

namespace SearchQuery

variable {α β : Type}

/-! ## Steps in a row -/

/-- Either every step of a row comes to something, or the first that fails decides. -/
theorem mapM_cases {ε : Type} (f : α → Except ε β) (as : List α) :
    (∃ bs, List.Forall₂ (fun a b => f a = .ok b) as bs ∧ as.mapM f = .ok bs) ∨
    ∃ before a after fault, as = before ++ a :: after ∧ (∀ b ∈ before, ∃ c, f b = .ok c) ∧
      f a = .error fault ∧ as.mapM f = .error fault := by
  induction as with
  | nil => exact Or.inl ⟨[], .nil, rfl⟩
  | cons a as ih =>
    rw [List.mapM_cons]
    cases ha : f a with
    | error fault => exact Or.inr ⟨[], a, as, fault, rfl, by simp, ha, rfl⟩
    | ok b =>
      obtain ⟨bs, hbs, hall⟩ | ⟨before, next, after, fault, rfl, hbefore, hnext, hfirst⟩ := ih
      · rw [hall]
        exact Or.inl ⟨b :: bs, .cons ha hbs, rfl⟩
      · rw [hfirst]
        exact Or.inr ⟨a :: before, next, after, fault, rfl,
          List.forall_mem_cons.mpr ⟨⟨b, ha⟩, hbefore⟩, hnext, rfl⟩

theorem mapM_of_forall₂ {ε : Type} {f : α → Except ε β} {as : List α} {bs : List β}
    (h : List.Forall₂ (fun a b => f a = .ok b) as bs) : as.mapM f = .ok bs := by
  induction h with
  | nil => rfl
  | cons hab _ ih =>
    rw [List.mapM_cons, hab, ih]
    rfl

/-! ## Steps that succeed -/

/-- The step succeeds with a value, and leaves the outside like this. -/
def Gives (p : Step α) (w : World) (a : α) (w' : World) : Prop := p.run.run w = (.ok a, w')

namespace Gives

variable {w w' w'' : World}

theorem plain {p : Act α} {a : α} (h : p.run w = (a, w')) : Gives (liftM p) w a w' := by
  obtain ⟨ha, hw⟩ := Prod.ext_iff.mp h
  exact Prod.ext (congrArg Except.ok ha) hw

theorem checked {x : Except Fault α} {a : α} (h : x = .ok a) : Gives (liftM x) w a w := by
  rw [h]
  rfl

theorem next {p : Step α} {f : α → Step β} {a : α} {b : β} (hp : Gives p w a w')
    (hf : Gives (f a) w' b w'') : Gives (p >>= f) w b w'' := by
  have hcont : (p >>= f).run.run w = (ExceptT.bindCont f (p.run.run w).1).run (p.run.run w).2 := rfl
  rw [Gives, hcont, hp]
  exact hf

theorem collect {as : List α} {bs : List β} {f : α → Step β}
    (h : List.Forall₂ (fun a b => Gives (f a) w b w) as bs) : Gives (as.mapM f) w bs w := by
  induction h with
  | nil => exact checked rfl
  | cons hab _ ih =>
    rw [List.mapM_cons]
    exact next hab (next ih (checked rfl))

end Gives

theorem ask_of_reply {w : World} {reply : Reply} {more : List Reply} (c : Call)
    (h : w.replies = reply :: more) :
    (World.ask c).run w = (reply.outcome, { w with calls := w.calls ++ [c], replies := more }) := by
  obtain ⟨replies, received, calls, events, package⟩ := w
  cases h
  rfl

/-! ## Replies -/

theorem forall_left {r : α → β → Prop} {p : α → Prop} {as : List α} {bs : List β}
    (h : List.Forall₂ r as bs) (hp : ∀ a b, r a b → p a) : ∀ a ∈ as, p a :=
  ((List.forall₂_and_left _ _).mp (h.imp fun a b hab => ⟨hp a b hab, hab⟩)).1

/-- The score beside a result is left out, nothing, or a float. -/
inductive Scored : Option Value → Prop
  | absent : Scored none
  | null : Scored (some .null)
  | float (x : Float) : Scored (some (.float x))

theorem Scored.scoreOf_ok {v : Option Value} (h : Scored v) :
    ∃ score, scoreOf (v.getD .null) = .ok score := by
  cases h with
  | absent | null => exact ⟨none, rfl⟩
  | float x => exact ⟨some x, rfl⟩

/-- Fields without a name twice are a document as they are. -/
theorem Document.check_ofFields (id : String) {fields : Fields} (score : Option Float)
    (h : (Entries.keys fields).Nodup) :
    (Document.check id (fields.map fun (name, v) => (.text name, v)) score).toExcept =
      .ok { id, fields, score } := by
  rw [Checked.toExcept_eq_ok, check, Checked.map_eq_ok]
  exact ⟨fields, Checked.inside_eq_ok.mpr (Check.dict_anything_ofFields h), rfl⟩

/-- Results without a name twice in any of them pass as they are. -/
theorem RawResults.check_ofFields (total : Int) {results : List Fields} (metadata : Fields)
    (h : ∀ result ∈ results, (Entries.keys result).Nodup) :
    (RawResults.check (.int total) (.list (results.map .ofFields)) metadata).toExcept =
      .ok { total, documents := results, metadata } := by
  have hresults : Check.list (Check.dict Check.anything) (.list (results.map .ofFields)) =
      .ok results := Check.members_map fun result hresult =>
    Check.dict_anything_ofFields (h result hresult)
  rw [Checked.toExcept_eq_ok, check, hresults]
  rfl

namespace Solr

/-- The answer lists these results. -/
def Lists (answer : List (Value × Value)) (results : List Fields) : Prop :=
  ∃ response total, Value.field? "response" answer = some (.map response) ∧
    Value.field? "numFound" response = some (.int total) ∧
    Value.field? "docs" response = some (.list (results.map .ofFields)) ∧
    ∀ header, Value.field? "responseHeader" answer = some header → ∃ entries, header = .map entries

/-- The result carries a document with these fields: all of its own but the score. -/
structure Carries (result fields : Fields) : Prop where
  distinct : (Entries.keys result).Nodup
  score : Scored (result.lookup "score")
  rest : fields = result.filter fun (name, _) => name != "score"

theorem documentOf_carried {result fields : Fields} (h : Carries result fields) :
    ∃ d, documentOf (.ofFields result) = .ok d ∧ d.fields = fields := by
  obtain ⟨hdistinct, hscored, rfl⟩ := h
  obtain ⟨score, hscore⟩ := hscored.scoreOf_ok
  have hkept : (Entries.keys (result.filter fun (name, _) => name != "score")).Nodup :=
    hdistinct.sublist (List.filter_sublist.map _)
  rw [← Value.field?_ofFields] at hscore
  simp only [Value.ofFields, documentOf, hscore, List.filter_map]
  exact ⟨_, Document.check_ofFields _ score hkept, rfl⟩

theorem resultsOf_listed {answer : List (Value × Value)} {results : List Fields}
    (hlists : Lists answer results) (h : ∀ result ∈ results, (Entries.keys result).Nodup) :
    ∃ total metadata, resultsOf answer = .ok { total, documents := results, metadata } := by
  obtain ⟨response, total, hresponse, htotal, hdocs, hheader⟩ := hlists
  have htime : ∃ time,
      ((Value.field? "responseHeader" answer).getD (.map [])).getD "QTime" (.int 0) = .ok time := by
    cases hfield : Value.field? "responseHeader" answer with
    | none => exact ⟨_, rfl⟩
    | some header =>
      obtain ⟨entries, rfl⟩ := hheader header hfield
      exact ⟨_, rfl⟩
  obtain ⟨time, htime⟩ := htime
  refine ⟨total, [("qtime_ms", time)], ?_⟩
  simp only [resultsOf, hresponse, htime, Option.getD_some, Value.getD_map, htotal, hdocs]
  exact RawResults.check_ofFields total _ h

theorem gives_execute {s : Solr} {r : Request} {answer : List (Value × Value)}
    {results : List Fields} {w : World} {reply : Reply} {more : List Reply}
    (hlive : s.live = true) (hreply : w.replies = reply :: more)
    (hanswer : reply.outcome = .answered 200 (.map answer) none) (hlists : Lists answer results)
    (h : ∀ result ∈ results, (Entries.keys result).Nodup) :
    ∃ total metadata w',
      Gives (s.execute r) w { total, documents := results, metadata } w' := by
  obtain ⟨total, metadata, hresults⟩ := resultsOf_listed hlists h
  have hselect : ∃ w', Gives (s.select r (s.searchBody r)) w answer w' := by
    have hask := ask_of_reply (.post ("/" ++ (s.collectionOf r).display ++ "/select")
      (s.searchBody r)) hreply
    rw [hanswer] at hask
    simp only [select, hlive, Bool.not_true, Bool.false_eq_true, if_false]
    exact ⟨_, Gives.next (Gives.plain hask) (Gives.checked rfl)⟩
  obtain ⟨w', hselect⟩ := hselect
  exact ⟨total, metadata, w', Gives.next hselect (Gives.checked hresults)⟩

end Solr

namespace OpenSearch

/-- The answer lists these results. -/
def Lists (answer : List (Value × Value)) (results : List Fields) : Prop :=
  ∃ hits totals total, Value.field? "hits" answer = some (.map hits) ∧
    Value.field? "total" hits = some (.map totals) ∧
    Value.field? "value" totals = some (.int total) ∧
    Value.field? "hits" hits = some (.list (results.map .ofFields))

/-- The result carries a document with these fields: those of its source. -/
structure Carries (result fields : Fields) : Prop where
  distinct : (Entries.keys result).Nodup
  score : Scored (result.lookup "_score")
  source : result.lookup "_source" = some (.ofFields fields)
  source_distinct : (Entries.keys fields).Nodup

theorem documentOf_carried {result fields : Fields} (h : Carries result fields) :
    ∃ d, documentOf (.ofFields result) = .ok d ∧ d.fields = fields := by
  obtain ⟨-, hscored, hsource, hdistinct⟩ := h
  obtain ⟨score, hscore⟩ := hscored.scoreOf_ok
  rw [← Value.field?_ofFields] at hsource hscore
  simp only [documentOf, Value.ofFields, Value.getD_map, hsource, hscore, Option.getD_some,
    Value.toEntries, bind, Except.bind]
  exact ⟨_, Document.check_ofFields _ score hdistinct, rfl⟩

theorem resultsOf_listed {answer : List (Value × Value)} {results : List Fields}
    (hlists : Lists answer results) (h : ∀ result ∈ results, (Entries.keys result).Nodup) :
    ∃ total metadata,
      resultsOf (.map answer) = .ok { total, documents := results, metadata } := by
  obtain ⟨hits, totals, total, hhits, htotals, htotal, hresults⟩ := hlists
  refine ⟨total, [("took_os_ms", (Value.field? "took" answer).getD (.int 0))], ?_⟩
  simp only [resultsOf, Value.getD_map, hhits, htotals, htotal, hresults, Option.getD_some, bind,
    Except.bind]
  exact RawResults.check_ofFields total _ h

/-- Columns with texts as names can be sent. -/
theorem searchBody_ok (o : OpenSearch) {r : Request} {columns : List (String × Bool)}
    (h : r.sort = Columns.parts columns) : ∃ body, o.searchBody r = .ok body := by
  have hcolumns : ∃ sort, r.sort.mapM sortColumn = .ok sort := by
    rw [h, Columns.parts, List.mapM_map]
    exact ⟨_, List.mapM_pure⟩
  obtain ⟨sort, hsort⟩ := hcolumns
  rw [searchBody, hsort]
  exact ⟨_, rfl⟩

theorem gives_execute {o : OpenSearch} {r : Request} {columns : List (String × Bool)}
    {answer : List (Value × Value)} {results : List Fields} {w : World} {reply : Reply}
    {more : List Reply} (hlive : o.live = true) (hsort : r.sort = Columns.parts columns)
    (hreply : w.replies = reply :: more) (hanswer : reply.outcome.body? = .ok (.map answer))
    (hlists : Lists answer results) (h : ∀ result ∈ results, (Entries.keys result).Nodup) :
    ∃ total metadata w',
      Gives (o.execute r) w { total, documents := results, metadata } w' := by
  obtain ⟨total, metadata, hresults⟩ := resultsOf_listed hlists h
  obtain ⟨body, hbody⟩ := o.searchBody_ok hsort
  have hask := ask_of_reply (.search (o.indexOf r) body) hreply
  have hread : bodyOf "query" reply.outcome = .ok (.map answer) := by
    rw [bodyOf, hanswer]
  simp only [execute, hlive, Bool.not_true, Bool.false_eq_true, if_false]
  exact ⟨total, metadata, _, Gives.next (Gives.checked hbody) (Gives.next (Gives.plain hask)
    (Gives.next (Gives.checked hread) (Gives.checked hresults)))⟩

end OpenSearch

/-! ## Searches -/

namespace Engine

/-- The outcome delivers documents with these fields to an engine with an open client. Their
ids may be anything. -/
inductive Delivers (outcome : Outcome) (rows : List Fields) : Engine → Prop
  | solr {s : Solr} {answer : List (Value × Value)} {results : List Fields}
      (live : s.live = true) (answered : outcome = .answered 200 (.map answer) none)
      (lists : Solr.Lists answer results) (carries : List.Forall₂ Solr.Carries results rows) :
      Delivers outcome rows (.solr s)
  | openSearch {o : OpenSearch} {answer : List (Value × Value)} {results : List Fields}
      (live : o.live = true) (answered : outcome.body? = .ok (.map answer))
      (lists : OpenSearch.Lists answer results)
      (carries : List.Forall₂ OpenSearch.Carries results rows) :
      Delivers outcome rows (.openSearch o)

/-- The engine makes of the result a document with these fields. -/
def Reads (e : Engine) (result fields : Fields) : Prop :=
  ∃ d, e.hitOf (.ofFields result) = .ok (.document d) ∧ d.fields = fields

theorem reads_of_solr {s : Solr} {result fields : Fields} (h : Solr.Carries result fields) :
    (Engine.solr s).Reads result fields := by
  obtain ⟨d, hd, hfields⟩ := Solr.documentOf_carried h
  exact ⟨d, congrArg (Except.map Hit.document) hd, hfields⟩

theorem reads_of_openSearch {o : OpenSearch} {result fields : Fields}
    (h : OpenSearch.Carries result fields) : (Engine.openSearch o).Reads result fields := by
  obtain ⟨d, hd, hfields⟩ := OpenSearch.documentOf_carried h
  exact ⟨d, congrArg (Except.map Hit.document) hd, hfields⟩

theorem gives_execute {e : Engine} {r : Request} {columns : List (String × Bool)}
    {rows : List Fields} {w : World} {reply : Reply} {more : List Reply}
    (h : e.Delivers reply.outcome rows) (hsort : r.sort = Columns.parts columns)
    (hreply : w.replies = reply :: more) :
    ∃ total results metadata w',
      Gives (e.execute r) w { total, documents := results, metadata } w' ∧
        List.Forall₂ e.Reads results rows := by
  let received : World := { w with received := w.received ++ [.search r] }
  have hreceive : Gives (liftM (World.receive (.search r))) w () received := Gives.plain rfl
  have hreplies : received.replies = reply :: more := hreply
  cases h with
  | solr live answered lists carries =>
    have hdistinct := forall_left carries fun _ _ hresult => hresult.distinct
    obtain ⟨total, metadata, w', hexecute⟩ :=
      Solr.gives_execute live hreplies answered lists hdistinct
    exact ⟨total, _, metadata, w', hreceive.next hexecute,
      carries.imp fun _ _ => reads_of_solr⟩
  | openSearch live answered lists carries =>
    have hdistinct := forall_left carries fun _ _ hresult => hresult.distinct
    obtain ⟨total, metadata, w', hexecute⟩ :=
      OpenSearch.gives_execute live hsort hreplies answered lists hdistinct
    exact ⟨total, _, metadata, w', hreceive.next hexecute,
      carries.imp fun _ _ => reads_of_openSearch⟩

theorem gives_search {e : Engine} {r : Request} {total : Int} {results rows : List Fields}
    {metadata : Fields} {w w' : World}
    (hexecute : Gives (e.execute r) w { total, documents := results, metadata } w')
    (hreads : List.Forall₂ e.Reads results rows) :
    ∃ hits, Gives (e.search r) w hits w' ∧
      (hits.filterMap Hit.document?).map (·.fields) = rows := by
  have hhits : ∃ hits : List Hit,
      List.Forall₂ (fun result hit => e.hitOf (.ofFields result) = .ok hit) results hits ∧
        (hits.filterMap Hit.document?).map (·.fields) = rows := by
    clear hexecute
    induction hreads with
    | nil => exact ⟨[], .nil, rfl⟩
    | cons hread _ ih =>
      obtain ⟨d, hd, rfl⟩ := hread
      obtain ⟨hits, hhits, rfl⟩ := ih
      exact ⟨.document d :: hits, .cons hd hhits, rfl⟩
  obtain ⟨hits, hhits, hrows⟩ := hhits
  refine ⟨hits, Gives.next hexecute (Gives.collect ?_), hrows⟩
  exact hhits.imp fun _ _ hhit => Gives.checked hhit

/-- A search finds the documents that its reply delivers. -/
theorem gives_searchNoted {e : Engine} {r : Request} {columns : List (String × Bool)}
    {rows : List Fields} {w : World} {reply : Reply} {more : List Reply}
    (h : e.Delivers reply.outcome rows) (hsort : r.sort = Columns.parts columns)
    (hreply : w.replies = reply :: more) :
    ∃ hits w', Gives (e.searchNoted r) w hits w' ∧
      (hits.filterMap Hit.document?).map (·.fields) = rows := by
  let note : Event := ⟨.debug, searchSource, "Searching " ++ e.name ++ ": " ++ r.query.shown⟩
  let noted : World := { w with events := w.events ++ [note] }
  have hreplies : noted.replies = reply :: more := hreply
  obtain ⟨total, results, metadata, w', hexecute, hreads⟩ := gives_execute h hsort hreplies
  obtain ⟨hits, hsearch, hrows⟩ := gives_search hexecute hreads
  exact ⟨hits, w', Gives.next (Gives.plain rfl) hsearch, hrows⟩

end Engine

/-! ## Sessions -/

/-- A query sorts a new request by columns with texts as names. -/
theorem Spec.sort_prepared {spec : Spec} {mode : FieldMode} {index : Option String}
    {outcome : Except Fault Prepared} {r : Request}
    (h : spec.prepare mode { index } = (outcome, r)) :
    ∃ columns, r.sort = Columns.parts columns := by
  have hsort := spec.prepare_sort mode { index }
  rw [h, writesSort?] at hsort
  cases hw : spec.window? with
  | error fault =>
    rw [hw] at hsort
    exact ⟨[], hsort⟩
  | ok window =>
    rw [hw] at hsort
    by_cases hcolumns : spec.columns = []
    · exact ⟨[], by simpa [hcolumns, Columns.parts] using hsort⟩
    · refine ⟨spec.columns.pushed, ?_⟩
      simpa [hcolumns, Columns.parts, Columns.pushed, Function.comp_def] using hsort

namespace Session

/-- What is reported of some rows that were found. -/
def fetchedNote (rows : List Fields) (query : String) : Event :=
  ⟨.debug, source,
    "Fetched " ++ toString rows.length ++ " documents for " ++ Text.quoted query⟩

/-- A query that finds some hits leaves its text and the open connection behind, and a note. -/
theorem perform_rows_found {spec : Spec} {s : Session} {c : Connection} {e : Engine}
    {p : Prepared} {r : Request} {hits : List Hit} {w w' w'' : World}
    (hopen : s.connection.ready.run w = ((.ok e, c), w'))
    (hprepare : spec.prepare s.mode { index := s.index } = (.ok p, r))
    (hsearch : Gives (e.searchNoted r) w' hits w'') :
    let found := (hits.filterMap Hit.document?).map (·.fields)
    perform (rows spec) s w =
      ((.ok found, { s with connection := c, query := some p.query }),
        { w'' with events := w''.events ++ [fetchedNote found p.query] }) := by
  have hengine : perform engine s w = ((.ok e, { s with connection := c }), w') := by
    rw [perform_engine, hopen]
  have hmade : perform (prepareOn spec { index := s.index }) { s with connection := c } w' =
      ((.ok (p, r), { s with connection := c, query := some p.query }), w') := by
    rw [perform_prepareOn, hprepare]
  have hfetched : perform (onEngine (e.searchNoted r))
      { s with connection := c, query := some p.query } w' =
        ((.ok hits, { s with connection := c, query := some p.query }), w'') := by
    rw [perform_onEngine, hsearch]
  exact ((perform_bind_ok hengine).trans ((perform_bind_ok (perform_look _ _)).trans
    ((perform_bind_ok hmade).trans (perform_bind_ok hfetched)))).trans rfl

theorem perform_rows {spec : Spec} {s : Session} {c : Connection} {e : Engine} {p : Prepared}
    {r : Request} {hits : List Hit} {w w' w'' : World}
    (hopen : s.connection.ready.run w = ((.ok e, c), w'))
    (hprepare : spec.prepare s.mode { index := s.index } = (.ok p, r))
    (hsearch : Gives (e.searchNoted r) w' hits w'') :
    ∃ (s' : Session) (wend : World), perform (rows spec) s w =
      ((.ok ((hits.filterMap Hit.document?).map (·.fields)), s'), wend) :=
  ⟨_, _, perform_rows_found hopen hprepare hsearch⟩

/-- Rows that are wanted as they are hold the fields of every document that the reply delivers,
one row for each document, in the order of the reply. -/
theorem all_rows_are_the_documents_of_the_reply {s : Session} {spec : Spec} {c : Connection}
    {e : Engine} {p : Prepared} {r : Request} {reply : Reply} {more : List Reply}
    {documents : List Fields} {w w' : World}
    (hbuild : s.builder.build = .ok spec) (harray : spec.asArray = true)
    (hindex : spec.indexBy = none)
    (hprepare : spec.prepare s.mode { index := s.index } = (.ok p, r))
    (hopen : s.connection.ready.run w = ((.ok e, c), w'))
    (hreply : w'.replies = reply :: more) (hdelivers : e.Delivers reply.outcome documents) :
    (perform all s w).1.1 = .ok (.list (documents.map .row)) := by
  obtain ⟨columns, hsort⟩ := Spec.sort_prepared hprepare
  obtain ⟨hits, w'', hsearch, rfl⟩ := e.gives_searchNoted hdelivers hsort hreply
  obtain ⟨s', wend, hrows⟩ := perform_rows hopen hprepare hsearch
  have hbuilt : perform build s w = ((.ok spec, s), w) := congrArg (fun x => ((x, s), w)) hbuild
  rw [all, perform_bind_ok hbuilt, fetchAll, perform_bind_ok hrows,
    perform_bind_ok (perform_shape harray _ _ _), hindex]
  rfl

/-- Two books of one id, as they are stored. -/
def storedBooks : List Fields :=
  [[("id", .text "b1"), ("tags", .list [.text "sf", .null]), ("year", .int 1974)],
    [("id", .text "b1"), ("year", .map [(.int 1, .bool true)])]]

/-- The books in a reply of Solr, the first one with a score in between. -/
def booksFromSolr : Reply where
  outcome := .answered 200 (.ofFields [("response", .ofFields [("numFound", .int 2),
    ("docs", .list [
      .ofFields [("id", .text "b1"), ("tags", .list [.text "sf", .null]), ("score", .float 1.5),
        ("year", .int 1974)],
      .ofFields [("id", .text "b1"), ("year", .map [(.int 1, .bool true)])]])])]) none

/-- The books in a reply of OpenSearch, the second one with a score of nothing. -/
def booksFromOpenSearch : Reply where
  outcome := .answered 200 (.ofFields [("hits", .ofFields [("total", .ofFields [("value", .int 2)]),
    ("hits", .list [
      .ofFields [("_id", .text "b1"), ("_score", .float 1.5), ("_source", .ofFields [
        ("id", .text "b1"), ("tags", .list [.text "sf", .null]), ("year", .int 1974)])],
      .ofFields [("_id", .text "b1"), ("_score", .null), ("_source", .ofFields [
        ("id", .text "b1"), ("year", .map [(.int 1, .bool true)])])]])])]) none

theorem solr_delivers_storedBooks :
    (Engine.solr { live := true }).Delivers booksFromSolr.outcome storedBooks := by
  refine .solr rfl rfl ⟨_, 2, rfl, rfl, rfl, ?_⟩ (.cons ?_ (.cons ?_ .nil))
  · intro header h
    cases h
  · exact ⟨by decide, .float 1.5, rfl⟩
  · exact ⟨by decide, .absent, rfl⟩

theorem openSearch_delivers_storedBooks :
    (Engine.openSearch { live := true }).Delivers booksFromOpenSearch.outcome storedBooks := by
  refine .openSearch rfl rfl ⟨_, _, 2, rfl, rfl, rfl, rfl⟩ (.cons ?_ (.cons ?_ .nil))
  · exact ⟨by decide, .float 1.5, rfl, by decide⟩
  · exact ⟨by decide, .null, rfl, by decide⟩

/-- Both books come through as they are stored, from either engine. -/
theorem the_rows_of_two_books_are_as_stored :
    let rows (e : Engine) (reply : Reply) : Except Fault Findings :=
      (perform all { connection := { engine := some e }, builder := { asArray := .bool true } }
        { replies := [reply] }).1.1
    rows (.solr { live := true }) booksFromSolr = .ok (.list (storedBooks.map .row)) ∧
      rows (.openSearch { live := true }) booksFromOpenSearch =
        .ok (.list (storedBooks.map .row)) := by
  refine ⟨?_, ?_⟩
  · exact all_rows_are_the_documents_of_the_reply rfl rfl rfl rfl rfl rfl
      solr_delivers_storedBooks
  · exact all_rows_are_the_documents_of_the_reply rfl rfl rfl rfl rfl rfl
      openSearch_delivers_storedBooks

end Session

end SearchQuery
