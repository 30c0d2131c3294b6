-- One search in the words of two engines. What Solr is posted and what OpenSearch is sent are
-- read back into the same inquiry: where to look, for what, how many documents from which
-- one on, and in what order.
import SearchQuery.Proofs.CheckedRequests
import SearchQuery.Proofs.SortTexts

namespace SearchQuery

/-! ## Inquiries -/

/-- What documents should match. -/
structure Matching where
  text : String
  /-- Any term may match instead of all. -/
  anyTerm : Bool
  /-- The field that terms without a field are searched in, if one is given. -/
  field : Option Value

/-- A search without an engine's words for it. -/
structure Inquiry where
  index : String
  /-- What to match; without this, every document is wanted. -/
  matching : Option Matching
  /-- How many documents are wanted at most. -/
  size : Option Int
  /-- How many documents to pass over. -/
  start : Int
  /-- Columns in order of priority, each with whether it ascends. -/
  sort : List (String × Bool)

/-- The inquiry of a request, with an engine's own index and field for what it leaves open. -/
def CheckedRequest.inquiry (q : CheckedRequest) (index : String) (field : Value) : Inquiry where
  index := ((q.index.filter (· != "")).getD index)
  matching :=
    if q.query = "" then none
    else some {
      text := q.query, anyTerm := q.fuzzy, field := if field.isTruthy then some field else none }
  size := q.limit
  start := q.offset
  sort := q.sort

/-! ## Reading the pieces -/

/-- The text between a beginning and an end. -/
def Text.between? (opening closing s : String) : Option String :=
  let inner := (s.toList.drop opening.length).take (s.length - opening.length - closing.length)
  if opening ++ String.ofList inner ++ closing = s then some (String.ofList inner) else none

theorem Text.between?_eq (opening closing s : String) :
    Text.between? opening closing (opening ++ s ++ closing) = some s := by
  have hinner : (((opening ++ s ++ closing).toList.drop opening.length).take
      ((opening ++ s ++ closing).length - opening.length - closing.length)) = s.toList := by
    simp [← String.length_toList]
  unfold Text.between?
  dsimp only
  rw [hinner]
  simp

/-- Items that are read back one by one are read back in a row. -/
theorem mapM_written {α β : Type} {write : α → β} {read : β → Option α}
    (h : ∀ a, read (write a) = some a) (as : List α) : (as.map write).mapM read = some as := by
  have hsome : as.mapM some = some (as.map id) := List.mapM_pure
  simpa [List.mapM_map, Function.comp_def, h] using hsome

namespace Value

/-- The value of a key, none if there is no such key or no map. -/
def at? (v : Value) (key : String) : Option Value :=
  match v.get? key with
  | .ok found => found
  | .error _ => none

@[simp]
theorem at?_ofFields (fields : List (String × Value)) (key : String) :
    (ofFields fields).at? key = fields.lookup key := by
  rw [at?, get?_ofFields]

end Value

namespace Inquiry

/-- The operator between terms: whether any may match. -/
def anyTerm? : Value → Option Bool
  | .text "OR" => some true
  | .text "AND" => some false
  | _ => none

/-- How many documents are wanted, from a field that may be left out. -/
def size? : Option Value → Option (Option Int)
  | none => some none
  | some (.int n) => some (some n)
  | some _ => none

/-- How many documents are passed over, from a field that may be left out. -/
def start? : Option Value → Option Int
  | none => some 0
  | some (.int n) => some n
  | some _ => none

theorem size?_given (limit : Option Int) : size? (limit.map .int) = some limit := by
  cases limit <;> rfl

theorem start?_given (offset : Int) :
    start? (if offset = 0 then none else some (.int offset)) = some offset := by
  by_cases hzero : offset = 0 <;> simp [start?, hzero]

theorem anyTerm?_operator (fuzzy : Bool) :
    anyTerm? (.text (if (Value.bool fuzzy).isTruthy then "OR" else "AND")) = some fuzzy := by
  cases fuzzy <;> rfl

end Inquiry

/-- The index that a request is for, as engines take it. -/
theorem CheckedRequest.index_orElse (q : CheckedRequest) (index : String) (field : Value) :
    (Value.ofText? q.toRequest.index).orElse (.text index) =
      .text (q.inquiry index field).index := by
  have hindex : q.toRequest.index = q.index := rfl
  rw [hindex]
  unfold inquiry
  cases q.index with
  | none => rfl
  | some given =>
    by_cases hempty : given = "" <;>
      simp [Value.ofText?, Value.orElse, Value.isTruthy, Option.filter, hempty]

/-! ## Reading what Solr is posted -/

namespace Solr

/-- A column and its direction: the letters before the last word, and that word. -/
def column? (written : List Char) : Option (String × Bool) :=
  match written.reverse with
  | 'c' :: 's' :: 'a' :: ' ' :: name => some (String.ofList name.reverse, true)
  | 'c' :: 's' :: 'e' :: 'd' :: ' ' :: name => some (String.ofList name.reverse, false)
  | _ => none

/-- The columns of a sort text. Each but the first stands behind a blank. -/
def columns? (text : String) : Option (List (String × Bool)) :=
  match Text.splitAll ',' text.toList with
  | [] => none
  | column :: more => (column :: more.map (List.drop 1)).mapM column?

/-- The sort columns, from a field that may be left out. -/
def sort? : Option Value → Option (List (String × Bool))
  | none => some []
  | some sort => do columns? (← sort.text?)

/-- The inquiry that a post is about. -/
def inquiry? : Call → Option Inquiry
  | .post path body => do
    let index ← Text.between? "/" "/select" path
    let text ← (← body.at? "query").text?
    let params ← body.at? "params"
    let anyTerm ← Inquiry.anyTerm? (← params.at? "q.op")
    let size ← Inquiry.size? (body.at? "limit")
    let start ← Inquiry.start? (body.at? "offset")
    let sort ← sort? (body.at? "sort")
    let matching := if text = "*:*" then none else some { text, anyTerm, field := params.at? "df" }
    return { index, matching, size, start, sort }
  | _ => none

theorem column?_written (column : String × Bool) :
    column? (writtenColumn column).toList = some column := by
  obtain ⟨name, up⟩ := column
  cases up <;> simp [writtenColumn, column?]

theorem columns?_sortText {column : String × Bool} {sort : List (String × Bool)}
    (h : ∀ c ∈ column :: sort, ',' ∉ c.1.toList) :
    columns? (sortText (Columns.parts (column :: sort))) = some (column :: sort) := by
  rw [columns?, splitAll_sortText h]
  dsimp only
  -- The blank behind each comma is taken off before a column is read.
  rw [List.map_map]
  exact mapM_written column?_written (column :: sort)

variable {s : Solr} {q : CheckedRequest} {index : String}

theorem query_searchBody : (s.searchBody q.toRequest).at? "query" =
    some (.text (if q.query = "" then "*:*" else q.query)) := by
  rw [searchBody_checked, Value.at?_ofFields, CheckedRequest.lookup_front rfl]
  by_cases hempty : q.query = "" <;>
    simp [queryOf, CheckedRequest.toRequest, Value.orElse, Value.isTruthy, hempty]

theorem params_searchBody : (s.searchBody q.toRequest).at? "params" =
    some (s.params q.toRequest [("fl", .text "*,score")]) := by
  rw [searchBody_checked, Value.at?_ofFields, CheckedRequest.lookup_front rfl]

theorem limit_searchBody : (s.searchBody q.toRequest).at? "limit" = q.limit.map .int := by
  rw [searchBody_checked, Value.at?_ofFields,
    CheckedRequest.lookup_size rfl (by decide) (by decide)]

theorem offset_searchBody : (s.searchBody q.toRequest).at? "offset" =
    if q.offset = 0 then none else some (.int q.offset) := by
  rw [searchBody_checked, Value.at?_ofFields,
    CheckedRequest.lookup_start rfl (by decide) (by decide)]

theorem sort_searchBody (hsort : ∀ column ∈ q.sort, ',' ∉ column.1.toList) :
    sort? ((s.searchBody q.toRequest).at? "sort") = some q.sort := by
  rw [searchBody_checked, Value.at?_ofFields,
    CheckedRequest.lookup_sort rfl (by decide) (by decide)]
  cases hcolumns : q.sort with
  | nil => rfl
  | cons column more =>
    rw [hcolumns] at hsort
    exact columns?_sortText hsort

theorem field_params (r : Request) (more : Fields) (hmore : more.lookup "df" = none) :
    (s.params r more).at? "df" = if s.defaultField.isTruthy then some s.defaultField else none := by
  by_cases hfield : s.defaultField.isTruthy = true <;>
    simp [params, List.lookup_cons, hfield, hmore]

theorem operator_params (r : Request) (more : Fields) :
    (s.params r more).at? "q.op" = some (.text (if r.fuzzy.isTruthy then "OR" else "AND")) := by
  simp [params]

/-- What Solr is posted for a request is its inquiry. -/
theorem inquiry?_posting (hindex : s.collection = .text index) (hquery : q.query ≠ "*:*")
    (hsort : ∀ column ∈ q.sort, ',' ∉ column.1.toList) :
    inquiry? (s.posting q.toRequest (s.searchBody q.toRequest)) =
      some (q.inquiry index s.defaultField) := by
  have hpath : Text.between? "/" "/select"
      ("/" ++ (s.collectionOf q.toRequest).display ++ "/select") =
        some (q.inquiry index s.defaultField).index := by
    rw [collectionOf, hindex, q.index_orElse index s.defaultField]
    exact Text.between?_eq _ _ _
  have hfuzzy : q.toRequest.fuzzy = .bool q.fuzzy := rfl
  unfold posting inquiry?
  simp only [hpath, query_searchBody, params_searchBody, operator_params, hfuzzy,
    Inquiry.anyTerm?_operator, limit_searchBody, Inquiry.size?_given, offset_searchBody,
    Inquiry.start?_given, sort_searchBody hsort, field_params _ [("fl", .text "*,score")] rfl,
    Value.text?, Option.bind_some, bind]
  by_cases hempty : q.query = ""
  · simp [CheckedRequest.inquiry, hempty]
  · simp [CheckedRequest.inquiry, hempty, hquery]

end Solr

/-! ## Reading what OpenSearch is sent -/

namespace OpenSearch

/-- A column from a map of it to its order. -/
def column? : Value → Option (String × Bool)
  | .map [(name, order)] => do
    let name ← name.text?
    match ← order.at? "order" with
    | .text "asc" => some (name, true)
    | .text "desc" => some (name, false)
    | _ => none
  | _ => none

/-- What to match, from a query; a query for every document has nothing to match. -/
def matching? (query : Value) : Option (Option Matching) :=
  match query.at? "match_all", query.at? "query_string" with
  | some _, none => some none
  | none, some inner => do
    let text ← (← inner.at? "query").text?
    let anyTerm ← Inquiry.anyTerm? (← inner.at? "default_operator")
    return some { text, anyTerm, field := inner.at? "default_field" }
  | _, _ => none

/-- The sort columns, from a field that may be left out. -/
def sort? : Option Value → Option (List (String × Bool))
  | none => some []
  | some (.list columns) => columns.mapM column?
  | some _ => none

/-- The inquiry that a search is about. -/
def inquiry? : Call → Option Inquiry
  | .search index body => do
    let index ← index.text?
    let matching ← matching? (← body.at? "query")
    let size ← Inquiry.size? (body.at? "size")
    let start ← Inquiry.start? (body.at? "from")
    let sort ← sort? (body.at? "sort")
    return { index, matching, size, start, sort }
  | _ => none

theorem column?_sent (column : String × Bool) : column? (sentColumn column) = some column := by
  obtain ⟨name, up⟩ := column
  cases up <;> simp [sentColumn, column?, Value.text?]

variable {o : OpenSearch} {q : CheckedRequest}

theorem limit_sentBody : (o.sentBody q).at? "size" = q.limit.map .int := by
  rw [sentBody, Value.at?_ofFields, CheckedRequest.lookup_size rfl (by decide) (by decide)]

theorem offset_sentBody : (o.sentBody q).at? "from" =
    if q.offset = 0 then none else some (.int q.offset) := by
  rw [sentBody, Value.at?_ofFields, CheckedRequest.lookup_start rfl (by decide) (by decide)]

theorem sort_sentBody : sort? ((o.sentBody q).at? "sort") = some q.sort := by
  have hread := mapM_written column?_sent q.sort
  rw [sentBody, Value.at?_ofFields, CheckedRequest.lookup_sort rfl (by decide) (by decide)]
  cases hcolumns : q.sort with
  | nil => rfl
  | cons column more =>
    rw [hcolumns] at hread
    exact hread

theorem query_sentBody : (o.sentBody q).at? "query" = some (o.queryOf q.toRequest) := by
  rw [sentBody, Value.at?_ofFields, CheckedRequest.lookup_front rfl]

theorem matching?_queryOf (index : String) :
    matching? (o.queryOf q.toRequest) = some (q.inquiry index o.defaultField).matching := by
  have hquery : q.toRequest.query = .text q.query := rfl
  have hfuzzy : q.toRequest.fuzzy = .bool q.fuzzy := rfl
  by_cases hempty : q.query = ""
  · simp [matching?, queryOf, CheckedRequest.inquiry, hquery, Value.isTruthy, hempty,
      List.lookup_cons]
  · have hasked : (Value.text q.query).isTruthy = true := by simpa [Value.isTruthy] using hempty
    by_cases hfield : o.defaultField.isTruthy = true <;>
      simp [matching?, queryOf, CheckedRequest.inquiry, hquery, hasked, hfuzzy, hempty, hfield,
        Inquiry.anyTerm?_operator, Value.text?, List.lookup_cons]

/-- What OpenSearch is sent for a request is its inquiry. -/
theorem inquiry?_search {index : String} (hindex : o.indexPattern = .text index) :
    inquiry? (.search (o.indexOf q.toRequest) (o.sentBody q)) =
      some (q.inquiry index o.defaultField) := by
  have hwhere : o.indexOf q.toRequest = .text (q.inquiry index o.defaultField).index := by
    rw [indexOf, hindex, q.index_orElse index o.defaultField]
  unfold inquiry?
  simp only [hwhere, query_sentBody, matching?_queryOf index, limit_sentBody,
    Inquiry.size?_given, offset_sentBody, Inquiry.start?_given, sort_sentBody, Value.text?,
    Option.bind_some, bind]
  rfl

end OpenSearch

/-! ## The same search -/

/-- What an inquiry tells of a request that leaves open an index or a field: all of it, but
how terms match where there are none. -/
structure Inquiry.Tells (x : Inquiry) (q : CheckedRequest) (index : String) (field : Value) :
    Prop where
  index : x.index = (q.index.filter (· != "")).getD index
  everything : x.matching = none ↔ q.query = ""
  query : (x.matching.map (·.text)).getD "" = q.query
  fuzzy : ∀ m ∈ x.matching, m.anyTerm = q.fuzzy
  field : ∀ m ∈ x.matching, m.field = if field.isTruthy then some field else none
  size : x.size = q.limit
  start : x.start = q.offset
  sort : x.sort = q.sort

theorem CheckedRequest.tells_inquiry (q : CheckedRequest) (index : String) (field : Value) :
    (q.inquiry index field).Tells q index field where
  index := rfl
  everything := by by_cases hempty : q.query = "" <;> simp [inquiry, hempty]
  query := by by_cases hempty : q.query = "" <;> simp [inquiry, hempty]
  fuzzy := by by_cases hempty : q.query = "" <;> simp [inquiry, hempty]
  field := by by_cases hempty : q.query = "" <;> simp [inquiry, hempty]
  size := rfl
  start := rfl
  sort := rfl

/-- An open Solr and an open OpenSearch with the same index and the same field of their own
are sent the same search for a request: one call each, and both calls are read as one inquiry,
which tells the request. Only the text that stands for every document must not be the query,
and no comma be in a sort column. -/
theorem CheckedRequest.both_engines_are_sent_the_same_search {q : CheckedRequest}
    (hquery : q.query ≠ "*:*") (hsort : ∀ column ∈ q.sort, ',' ∉ column.1.toList) {s : Solr}
    {o : OpenSearch} (hsolr : s.live = true) (hopen : o.live = true) {index : String}
    (hcollection : s.collection = .text index) (hpattern : o.indexPattern = .text index)
    (hfield : s.defaultField = o.defaultField) (w w' : World) :
    ∃ posted sent x,
      (((Engine.solr s).execute q.toRequest).run.run w).2.calls = w.calls ++ [posted] ∧
      (((Engine.openSearch o).execute q.toRequest).run.run w').2.calls = w'.calls ++ [sent] ∧
      Solr.inquiry? posted = some x ∧ OpenSearch.inquiry? sent = some x ∧
      x.Tells q index s.defaultField := by
  refine ⟨s.posting q.toRequest (s.searchBody q.toRequest),
    .search (o.indexOf q.toRequest) (o.sentBody q), q.inquiry index s.defaultField, ?_, ?_, ?_, ?_,
    q.tells_inquiry index _⟩
  · rw [Engine.run_execute]
    dsimp only
    rw [Solr.run_execute hsolr]
    rfl
  · rw [Engine.run_execute]
    dsimp only
    rw [OpenSearch.run_execute hopen _ _ OpenSearch.searchBody_checked]
    rfl
  · exact Solr.inquiry?_posting hcollection hquery hsort
  · rw [hfield]
    exact OpenSearch.inquiry?_search hpattern

/-- A fuzzy request for the second ten of the newest books about dunes. -/
def duneRequest : CheckedRequest where
  query := "dune desert"
  sort := [("year", false), ("title", true)]
  limit := some 10
  offset := 10
  fuzzy := true

/-- The books about dunes are asked for in the same way from both engines. -/
theorem CheckedRequest.dunes_are_asked_for_in_both_ways :
    ∃ posted sent x,
      (((Engine.solr { collection := .text "books", live := true }).execute
        duneRequest.toRequest).run.run {}).2.calls = [posted] ∧
      (((Engine.openSearch { indexPattern := .text "books", live := true }).execute
        duneRequest.toRequest).run.run {}).2.calls = [sent] ∧
      Solr.inquiry? posted = some x ∧ OpenSearch.inquiry? sent = some x ∧
      x.Tells duneRequest "books" .null :=
  both_engines_are_sent_the_same_search (by decide) (by decide) rfl rfl rfl rfl rfl {} {}

end SearchQuery
