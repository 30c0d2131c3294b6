-- Requests whose parts have passed their checks. Each part is of the kind that the check of it
-- makes, so that a request is told by plain data.
import SearchQuery.Proofs.Preparations

namespace SearchQuery

/-- A request whose parts are of the kinds that the check of a request lets through. -/
structure CheckedRequest where
  index : Option String := none
  query : String := ""
  /-- Columns in order of priority, each with whether it ascends. -/
  sort : List (String × Bool) := []
  limit : Option Int := none
  offset : Int := 0
  fuzzy : Bool := false
  deriving DecidableEq, Repr

/-- A limit as the part of a request. -/
def CheckedRequest.limitPart (limit : Option Int) : Value := (limit.map .int).getD .null

/-- The parts as values. -/
def CheckedRequest.toRequest (q : CheckedRequest) : Request where
  index := q.index
  query := .text q.query
  sort := Columns.parts q.sort
  limit := limitPart q.limit
  offset := .int q.offset
  fuzzy := .bool q.fuzzy

/-- A field whose check makes values of one kind has such a value, if its default is one. -/
theorem Check.field_map {α β : Type} {name : String} {default a : α} {check : Value → Checked β}
    {f : β → α} {es : List (Value × Value)} (hdefault : ∃ b, default = f b)
    (h : Check.field name default (fun v => (check v).map f) es = .ok a) : ∃ b, a = f b := by
  unfold field at h
  split at h
  · obtain ⟨b, -, rfl⟩ := Checked.map_eq_ok.mp (Checked.inside_eq_ok.mp h)
    exact ⟨b, rfl⟩
  · cases h
    exact hdefault

/-- Every request that passes its check has parts of these kinds. -/
theorem Request.exists_checked {es : List (Value × Value)} {r : Request}
    (h : Request.check es = .ok r) : ∃ q : CheckedRequest, r = q.toRequest := by
  rw [Request.check] at h
  simp only [Checked.seq_eq_ok, Checked.fmap_eq_ok] at h
  obtain ⟨_, fuzzy, ⟨_, offset, ⟨_, limit, ⟨_, sort, ⟨_, query, ⟨index, -, rfl⟩, hquery, rfl⟩,
    hsort, rfl⟩, hlimit, rfl⟩, hoffset, rfl⟩, hfuzzy, rfl⟩ := h
  obtain ⟨query, rfl⟩ := Check.field_map ⟨"", rfl⟩ hquery
  obtain ⟨sort, rfl⟩ := Check.field_map ⟨[], rfl⟩ hsort
  obtain ⟨limit, rfl⟩ := Check.field_map ⟨none, rfl⟩ hlimit
  obtain ⟨offset, rfl⟩ := Check.field_map ⟨0, rfl⟩ hoffset
  obtain ⟨fuzzy, rfl⟩ := Check.field_map ⟨false, rfl⟩ hfuzzy
  exact ⟨{ index, query, sort, limit, offset, fuzzy }, rfl⟩

/-! ## Checked requests in the words of engines -/

/-- The fields of a search behind some in front. How many documents are wanted and how many to
pass over have names that each engine chooses. -/
def CheckedRequest.fields (q : CheckedRequest) (front : Fields) (size start : String)
    (sort : Value) : Fields :=
  front ++ Fields.when q.limit.isSome size (limitPart q.limit) ++
    Fields.when (q.offset != 0) start (.int q.offset) ++ Fields.when (!q.sort.isEmpty) "sort" sort

section

variable {q : CheckedRequest} {front : Fields} {size start : String} {sort : Value}

theorem CheckedRequest.lookup_front {name : String} {v : Value} (h : front.lookup name = some v) :
    (q.fields front size start sort).lookup name = some v := by
  simp [fields, List.lookup_append, h]

theorem CheckedRequest.lookup_size (hfront : front.lookup size = none) (hstart : size ≠ start)
    (hsort : size ≠ "sort") :
    (q.fields front size start sort).lookup size = q.limit.map .int := by
  cases hlimit : q.limit <;>
    simp [fields, List.lookup_append, limitPart, hfront, hstart, hsort, hlimit]

theorem CheckedRequest.lookup_start (hfront : front.lookup start = none) (hsize : size ≠ start)
    (hsort : start ≠ "sort") :
    (q.fields front size start sort).lookup start =
      if q.offset = 0 then none else some (.int q.offset) := by
  by_cases hzero : q.offset = 0 <;>
    simp [fields, List.lookup_append, hfront, hsize.symm, hsort, hzero]

theorem CheckedRequest.lookup_sort (hfront : front.lookup "sort" = none) (hsize : size ≠ "sort")
    (hstart : start ≠ "sort") :
    (q.fields front size start sort).lookup "sort" = if q.sort = [] then none else some sort := by
  by_cases hsome : q.sort = [] <;>
    simp [fields, List.lookup_append, hfront, hsize.symm, hstart.symm, hsome]

end

theorem Solr.searchBody_checked (s : Solr) (q : CheckedRequest) :
    s.searchBody q.toRequest = .ofFields (q.fields
      [("query", queryOf q.toRequest), ("params", s.params q.toRequest [("fl", .text "*,score")])]
      "limit" "offset" (.text (sortText (Columns.parts q.sort)))) := by
  have hsorted : (Columns.parts q.sort).isEmpty = q.sort.isEmpty := List.isEmpty_map
  obtain ⟨index, query, sort, limit, offset, fuzzy⟩ := q
  cases limit <;>
    simp [searchBody, CheckedRequest.toRequest, CheckedRequest.fields, CheckedRequest.limitPart,
      Value.isTruthy, hsorted]

namespace OpenSearch

/-- A column as it is sent. -/
def sentColumn (column : String × Bool) : Value :=
  .map [(.text column.1, .ofFields [("order", .text (if column.2 then "asc" else "desc"))])]

/-- What is sent for a checked request. -/
def sentBody (o : OpenSearch) (q : CheckedRequest) : Value :=
  .ofFields (q.fields [("query", o.queryOf q.toRequest)] "size" "from"
    (.list (q.sort.map sentColumn)))

/-- The map to send can be made: every name of a column is a key. -/
theorem searchBody_checked {o : OpenSearch} {q : CheckedRequest} :
    o.searchBody q.toRequest = .ok (o.sentBody q) := by
  have hcolumns : q.toRequest.sort.mapM sortColumn = .ok (q.sort.map sentColumn) := by
    rw [CheckedRequest.toRequest, Columns.parts, List.mapM_map]
    exact List.mapM_pure
  have hsorted : q.toRequest.sort.isEmpty = q.sort.isEmpty := List.isEmpty_map
  rw [searchBody, hcolumns, hsorted]
  obtain ⟨index, query, sort, limit, offset, fuzzy⟩ := q
  cases limit <;> rfl

end OpenSearch

end SearchQuery
