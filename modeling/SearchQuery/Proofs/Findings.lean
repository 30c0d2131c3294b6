-- What becomes of the hits of a search. Every hit that is a document is found, in the order of
-- the hits. Records are made of all rows before one of them is called out, so a row that does
-- not fit leaves nothing but its fault. Looking for the first thing is looking for everything
-- under a limit of one.
import SearchQuery.Proofs.StoredDocuments
import SearchQuery.Proofs.Traces
import SearchQuery.Record.Samples

namespace SearchQuery

/-! ## Records of rows -/

namespace RecordType

variable {t : RecordType} {rows : List Fields}

/-- The record that the type makes of a row. -/
def Populates (t : RecordType) (row : Fields) (r : Record) : Prop :=
  t.populate (.ofFields row) = .ok r

/-- What keeps a row from becoming a record. -/
def fault? (t : RecordType) (row : Fields) : Option Fault :=
  match (t.populate (.ofFields row)).toExcept with
  | .ok _ => none
  | .error fault => some fault

theorem fault?_eq_none_iff {row : Fields} :
    t.fault? row = none ↔ ∃ r, (t.populate (.ofFields row)).toExcept = .ok r := by
  unfold fault?
  cases (t.populate (.ofFields row)).toExcept <;> simp

theorem fault?_eq_some_iff {row : Fields} {fault : Fault} :
    t.fault? row = some fault ↔ (t.populate (.ofFields row)).toExcept = .error fault := by
  unfold fault?
  cases (t.populate (.ofFields row)).toExcept <;> simp

theorem populateAll_ofFields (t : RecordType) (rows : List Fields) :
    t.populateAll (rows.map .ofFields) =
      rows.mapM fun row => (t.populate (.ofFields row)).toExcept := by
  rw [populateAll, List.mapM_map]
  rfl

/-- Where every row fits, each becomes a record. -/
theorem populateAll_of_none (h : rows.findSome? t.fault? = none) :
    ∃ records, List.Forall₂ t.Populates rows records ∧
      t.populateAll (rows.map .ofFields) = .ok records := by
  rw [populateAll_ofFields]
  obtain ⟨records, hrecords, hall⟩ | ⟨before, row, after, fault, rfl, -, hrow, -⟩ :=
    mapM_cases (fun row => (t.populate (.ofFields row)).toExcept) rows
  · exact ⟨records, hrecords.imp fun _ _ hr => Checked.toExcept_eq_ok.mp hr, hall⟩
  · have hfits := List.findSome?_eq_none_iff.mp h row (by simp)
    rw [fault?_eq_some_iff.mpr hrow] at hfits
    cases hfits

/-- Of several rows that do not fit the first one decides. -/
theorem populateAll_of_some {fault : Fault} (h : rows.findSome? t.fault? = some fault) :
    t.populateAll (rows.map .ofFields) = .error fault := by
  rw [populateAll_ofFields]
  obtain ⟨records, hrecords, -⟩ | ⟨before, row, after, first, rfl, hbefore, hrow, hfirst⟩ :=
    mapM_cases (fun row => (t.populate (.ofFields row)).toExcept) rows
  · obtain ⟨row, hmem, hrow⟩ := List.exists_of_findSome?_eq_some h
    have hfits : t.fault? row = none :=
      forall_left hrecords (fun row r hr => fault?_eq_none_iff.mpr ⟨r, hr⟩) row hmem
    rw [hfits] at hrow
    cases hrow
  · have hfits : before.findSome? t.fault? = none :=
      List.findSome?_eq_none_iff.mpr fun row hmem => fault?_eq_none_iff.mpr (hbefore row hmem)
    rw [List.findSome?_append, hfits, Option.none_or, List.findSome?_cons,
      fault?_eq_some_iff.mpr hrow] at h
    cases h
    exact hfirst

/-- What some records are called out by: one call for each of them, in their order, if the type
asks for that. -/
def callOuts (t : RecordType) (records : List Record) : List Call :=
  match t.announces with
  | none => []
  | some field => records.map fun r => .found ((r.fields.lookup field).getD .null)

end RecordType

/-- The outside behind some calls that have no reply. -/
def World.called (w : World) (calls : List Call) : World := { w with calls := w.calls ++ calls }

@[simp]
theorem World.called_nil (w : World) : w.called [] = w := by simp [called]

namespace Session

theorem run_calls {α : Type} (f : α → Call) (as : List α) (w : World) :
    (as.forM fun a => World.call (f a)).run w = ((), w.called (as.map f)) := by
  induction as generalizing w with
  | nil =>
    rw [List.map_nil, World.called_nil]
    rfl
  | cons a as ih =>
    have hrest : ((a :: as).forM fun a => World.call (f a)).run w =
        (as.forM fun a => World.call (f a)).run (w.called [f a]) := rfl
    rw [hrest, ih]
    simp [World.called]

theorem run_announce (t : RecordType) (records : List Record) (w : World) :
    (announce t records).run w = ((), w.called (t.callOuts records)) := by
  unfold announce RecordType.callOuts
  cases t.announces with
  | none =>
    rw [World.called_nil]
    rfl
  | some field => exact run_calls _ records w

/-! ## The shape of rows -/

section

variable {spec : Spec} {t : RecordType} {rows : List Fields} {s : Session}

/-- Rows that are wanted as they are, or for which there is no type, stay rows. -/
theorem perform_shape_rows (h : spec.asArray = true ∨ s.type = none) (rows : List Fields)
    (w : World) : perform (shape spec rows) s w = ((.ok (rows.map .row), s), w) := by
  obtain harray | hnone := h
  · exact perform_shape harray rows s w
  · unfold shape
    rw [perform_bind_ok (perform_look _ _), hnone]
    rfl

variable (htype : s.type = some t) (harray : spec.asArray = false)
include htype harray

/-- Records are made of all rows, then called out. -/
theorem perform_shape_typed (rows : List Fields) (w : World) :
    perform (shape spec rows) s w =
      match t.populateAll (rows.map .ofFields) with
      | .ok records => ((.ok (records.map .record), s), w.called (t.callOuts records))
      | .error fault => ((.error fault, s), w) := by
  unfold shape
  rw [perform_bind_ok (perform_look _ _), htype]
  dsimp only
  rw [harray, if_neg Bool.false_ne_true, perform_bind, perform_checked]
  cases t.populateAll (rows.map .ofFields) with
  | error fault => rfl
  | ok records =>
    have hannounced : perform (liftM (announce t records) : Run Unit) s w =
        ((.ok (), s), w.called (t.callOuts records)) :=
      congrArg (fun x : Unit × World => ((Except.ok x.1, s), x.2)) (run_announce t records w)
    exact (perform_bind_ok hannounced).trans rfl

end

/-- Where nothing was found there is nothing to make and to call out. -/
theorem perform_shape_nil (spec : Spec) (s : Session) (w : World) :
    perform (shape spec []) s w = ((.ok [], s), w) := by
  cases htype : s.type with
  | none => exact perform_shape_rows (Or.inr htype) [] w
  | some t =>
    cases harray : spec.asArray with
    | true => exact perform_shape_rows (Or.inl harray) [] w
    | false =>
      rw [perform_shape_typed htype harray]
      unfold RecordType.callOuts
      cases t.announces <;> simp [RecordType.populateAll, World.called, pure, Except.pure]

/-! ## Searches as far as their hits -/

/-- The search of a query up to its hits: the connection opens, the query is prepared on a new
request, and the engine finds the hits. -/
structure Searched (spec : Spec) (s : Session) (w : World) where
  connection : Connection
  engine : Engine
  prepared : Prepared
  request : Request
  hits : List Hit
  /-- The outside once the connection is open. -/
  opened : World
  /-- The outside behind the answer of the engine. -/
  answered : World
  opens : s.connection.ready.run w = ((.ok engine, connection), opened)
  prepares : spec.prepare s.mode { index := s.index } = (.ok prepared, request)
  finds : Gives (engine.searchNoted request) opened hits answered

namespace Searched

variable {spec : Spec} {s : Session} {w : World}

/-- The fields of every hit that is a document, in the order of the hits. -/
def rows (x : Searched spec s w) : List Fields :=
  (x.hits.filterMap Hit.document?).map (·.fields)

/-- The session behind the search. -/
def session (x : Searched spec s w) : Session :=
  { s with connection := x.connection, query := some x.prepared.query }

/-- The outside behind the search and the note of it. -/
def world (x : Searched spec s w) : World :=
  { x.answered with events := x.answered.events ++ [fetchedNote x.rows x.prepared.query] }

theorem perform_rows (x : Searched spec s w) :
    perform (Session.rows spec) s w = ((.ok x.rows, x.session), x.world) :=
  perform_rows_found x.opens x.prepares x.finds

/-- Up to the hits no record is called out. -/
theorem makes_no_callOut (x : Searched spec s w) :
    Makes (·.purpose ≠ .announcing) w x.world := by
  have hpath : Path (Makes (·.purpose ≠ .announcing)) (· ≠ .announcing) :=
    path_makes fun _ hc => hc
  have hopened := hpath.ready (by decide) (by decide) (by decide) s.connection w
  have hanswered := hpath.searchNoted (by decide)
    (fun _ _ => Makes.still rfl) x.engine x.request x.opened
  rw [x.opens] at hopened
  have hfinds : (x.engine.searchNoted x.request).run.run x.opened = (.ok x.hits, x.answered) :=
    x.finds
  rw [hfinds] at hanswered
  exact hopened.trans (hanswered.trans (Makes.still rfl))

end Searched

/-! ## Everything and the first thing -/

section

variable {spec : Spec} {s s' s'' : Session} {w w' w'' : World} {found : List Fields}
  {outcome : Except Fault (List Found)}
  (hrows : perform (rows spec) s w = ((.ok found, s'), w'))
  (hshape : perform (shape spec found) s' w' = ((outcome, s''), w''))
include hrows hshape

/-- Without a column to key it by, everything is what the rows are shaped to. -/
theorem perform_fetchAll_list (hlist : spec.indexBy.getD "" = "") :
    perform (fetchAll spec) s w = ((outcome.map .list, s''), w'') := by
  rw [fetchAll, perform_bind_ok hrows, perform_bind, hshape]
  cases outcome with
  | error fault => rfl
  | ok found =>
    cases hindex : spec.indexBy with
    | none => rfl
    | some column =>
      have hempty : column = "" := by simpa [hindex] using hlist
      simp [hempty]
      rfl

end

/-- Of everything that a search brings, exactly the documents are found, in their order. They stay
rows if rows are wanted or if there is no type, whatever is in them. Else the first row that does
not fit decides, and no record is called out; where all fit, each record is called out once, in
order, and all of them were made before. -/
theorem records_are_called_out_all_or_none {spec : Spec} {s : Session} {w : World}
    (x : Searched spec s w) (hlist : spec.indexBy.getD "" = "") :
    Makes (·.purpose ≠ .announcing) w x.world ∧
    (spec.asArray = true ∨ s.type = none →
      perform (fetchAll spec) s w = ((.ok (.list (x.rows.map .row)), x.session), x.world)) ∧
    ∀ t, s.type = some t → spec.asArray = false →
      (∀ fault, x.rows.findSome? t.fault? = some fault →
        perform (fetchAll spec) s w = ((.error fault, x.session), x.world)) ∧
      (x.rows.findSome? t.fault? = none → ∃ records, List.Forall₂ t.Populates x.rows records ∧
        perform (fetchAll spec) s w =
          ((.ok (.list (records.map .record)), x.session),
            x.world.called (t.callOuts records))) := by
  refine ⟨x.makes_no_callOut, fun hasRows => ?_, fun t htype harray => ?_⟩
  · have hrows : x.session.type = s.type := rfl
    rw [← hrows] at hasRows
    exact perform_fetchAll_list x.perform_rows (perform_shape_rows hasRows _ _) hlist
  have hshape := perform_shape_typed (s := x.session) htype harray x.rows x.world
  constructor
  · intro fault hfault
    rw [RecordType.populateAll_of_some hfault] at hshape
    exact perform_fetchAll_list x.perform_rows hshape hlist
  · intro hnone
    obtain ⟨records, hrecords, hall⟩ := RecordType.populateAll_of_none hnone
    rw [hall] at hshape
    exact ⟨records, hrecords, perform_fetchAll_list x.perform_rows hshape hlist⟩

/-- A shelf of two titles with something in between that is no document. -/
def titleShelf (title : Value) : Shelf where
  documents := .list [.ofFields [("title", .text "Dune")], .ofFields [("__raw__", .int 1)],
    .ofFields [("title", title)]]

/-- A search for everything on such a shelf. -/
def titlesSearched (t : RecordType) (title : Value) (asArray : Bool) :
    Searched { asArray }
      { connection := { engine := some (.shelf (titleShelf title)) }, type := some t } {} where
  connection := { engine := some (.shelf (titleShelf title)) }
  engine := .shelf (titleShelf title)
  prepared := { query := "", sort := [], window := none, fuzzy := false }
  request := { index := some t.indexName }
  hits := [.document { id := "", fields := [("title", .text "Dune")] },
    .other (.ofFields [("__raw__", .int 1)]), .document { id := "", fields := [("title", title)] }]
  opened := {}
  answered := {
    received := [.search { index := some t.indexName }]
    calls := [.shelfSearched { index := some t.indexName }]
    events := [⟨.debug, Engine.searchSource, "Searching stub: ''"⟩] }
  opens := rfl
  prepares := rfl
  finds := rfl

/-- A number in place of a title keeps the title in front of it from being called out too, while
both come through as rows; two titles are called out one after the other. -/
theorem titles_are_called_out_together :
    let find (title : Value) (asArray : Bool) := perform (fetchAll { asArray })
      { connection := { engine := some (.shelf (titleShelf title)) },
        type := some Samples.tracked } {}
    let x := titlesSearched Samples.tracked (.int 7) false
    let y := titlesSearched Samples.tracked (.int 7) true
    let z := titlesSearched Samples.tracked (.text "Emma") false
    find (.int 7) false =
        ((.error (.invalid [⟨["title"], .stringType⟩]), x.session), x.world) ∧
      find (.int 7) true =
        ((.ok (.list [.row [("title", .text "Dune")], .row [("title", .int 7)]]), y.session),
          y.world) ∧
      find (.text "Emma") false =
        ((.ok (.list [.record ⟨"Tracked", [("title", .text "Dune")]⟩,
          .record ⟨"Tracked", [("title", .text "Emma")]⟩]), z.session),
          z.world.called [.found (.text "Dune"), .found (.text "Emma")]) := by
  intro find x y z
  obtain ⟨-, -, hx⟩ := records_are_called_out_all_or_none x rfl
  obtain ⟨-, hy, -⟩ := records_are_called_out_all_or_none y rfl
  obtain ⟨-, -, hz⟩ := records_are_called_out_all_or_none z rfl
  refine ⟨(hx _ rfl rfl).1 _ rfl, hy (Or.inl rfl), ?_⟩
  obtain ⟨records, hrecords, hfound⟩ := (hz _ rfl rfl).2 rfl
  obtain - | ⟨hdune, - | ⟨hemma, - | -⟩⟩ := hrecords
  cases Checked.ok.inj hdune
  cases Checked.ok.inj hemma
  exact hfound

/-- The first thing that a query finds is the first of everything that it finds under a limit of
one and without a column to key by: with the same calls and events outside, the same session
behind it, and the same fault if there is one. -/
theorem the_first_thing_is_the_first_of_all (spec : Spec) (s : Session) (w : World) :
    ∃ (outcome : Except Fault (List Found)) (s' : Session) (w' : World),
      perform (fetchAll { spec with limit := .number 1, indexBy := none }) s w =
        ((outcome.map .list, s'), w') ∧
      perform (fetchOne spec) s w = ((outcome.map List.head?, s'), w') := by
  rcases hrows : perform (rows { spec with limit := .number 1 }) s w with ⟨⟨outcome, s'⟩, w'⟩
  have hall : perform (rows { spec with limit := .number 1, indexBy := none }) s w =
      ((outcome, s'), w') := hrows
  cases outcome with
  | error fault =>
    refine ⟨.error fault, s', w', ?_, ?_⟩
    · rw [fetchAll, perform_bind_error hall]
      rfl
    · rw [fetchOne, perform_bind_error hrows]
      rfl
  | ok found =>
    rcases hshape : perform (shape spec found) s' w' with ⟨⟨outcome, s''⟩, w''⟩
    refine ⟨outcome, s'', w'', perform_fetchAll_list hall hshape rfl, ?_⟩
    rw [fetchOne, perform_bind_ok hrows]
    cases found with
    | nil =>
      rw [perform_shape_nil] at hshape
      cases hshape
      rfl
    | cons row more =>
      rw [List.isEmpty_cons, if_neg Bool.false_ne_true, perform_bind, hshape]
      cases outcome <;> rfl

end Session

end SearchQuery
