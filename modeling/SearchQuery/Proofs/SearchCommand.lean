-- The search of the command line, told as a single row of steps: the query is put together,
-- the engine is opened, the query is prepared, the engine is asked, the answer is printed, and
-- what was opened is closed.
import SearchQuery.CommandLine.Run
import SearchQuery.Proofs.FreshRequests
import SearchQuery.Proofs.JsonValues
import SearchQuery.Proofs.Traces

namespace SearchQuery.CommandLine

/-! ## The query of a search -/

/-- The condition that a value gives to a search; a null gives none. -/
def conditionOf : Value → Option Condition
  | .null => none
  | v => some (Condition.ofValue v)

theorem apply_condition (b : Builder) {v : Value} (h : v.isOverlong = false) :
    b.apply (.condition v) = .ok { b with condition := conditionOf v } := by
  have hread := Condition.read_of_short h
  cases v with
  | null => rfl
  | _ =>
    simp only [Builder.apply, hread]
    rfl

/-- Compiling takes every condition that can be read. -/
theorem compileText_read (room : Nat) (o : CompileOptions) (groupFields : Bool) :
    compileText room o groupFields = Json.read room o.condition >>= fun v =>
      (Condition.ofValue v).compile (.ofGrouping (o.groupFields || groupFields)) := by
  unfold compileText
  cases hread : Json.read room o.condition with
  | error fault => rfl
  | ok v =>
    dsimp only [bind, Except.bind]
    rw [Condition.read_of_short (Json.isOverlong_read hread)]

namespace SearchOptions

/-- The condition that a search is given. -/
def node (room : Nat) (o : SearchOptions) : Except Fault (Option Condition) :=
  match filled? o.condition with
  | none => .ok none
  | some text => (Json.read room text).map conditionOf

/-- The query that a search asks for, before it is checked. -/
def builder (room : Nat) (o : SearchOptions) : Except Fault Builder := do
  let condition ← o.node room
  let columns ← Columns.ofValue (.ofText? o.orderBy)
  return {
    condition, columns, limit := o.limit, offset := o.offset, fuzzy := .bool o.fuzzy,
    asArray := .bool true }

/-- The query that a search asks for. -/
def spec (room : Nat) (o : SearchOptions) : Except Fault Spec := do (← o.builder room).build

end SearchOptions

open Session

/-- The calls behind the one for the condition. -/
def fillRest (o : SearchOptions) : Run Unit := do
  Session.call (.orderBy (.ofText? o.orderBy))
  Session.call (.limit o.limit)
  Session.call (.offset o.offset)
  Session.call (.fuzzy (.bool o.fuzzy))
  Session.call (.asArray (.bool true))

theorem perform_fillRest (o : SearchOptions) (condition : Option Condition) {s : Session}
    (hs : s.builder = { condition }) (w : World) :
    perform (fillRest o) s w =
      match Columns.ofValue (.ofText? o.orderBy) with
      | .error fault => ((.error fault, s), w)
      | .ok columns =>
        ((.ok (), { s with builder := {
            condition, columns, limit := o.limit, offset := o.offset, fuzzy := .bool o.fuzzy,
            asArray := .bool true } }), w) := by
  have hcall := perform_call (.orderBy (.ofText? o.orderBy)) s w
  have happly : Builder.apply { condition } (.orderBy (.ofText? o.orderBy)) =
      (Columns.ofValue (.ofText? o.orderBy)).map fun columns => { condition, columns } := rfl
  rw [hs, happly] at hcall
  cases hcolumns : Columns.ofValue (.ofText? o.orderBy) with
  | error fault =>
    rw [hcolumns] at hcall
    exact perform_bind_error hcall
  | ok columns =>
    rw [hcolumns] at hcall
    exact perform_bind_ok hcall

theorem perform_fillQuery (room : Nat) (o : SearchOptions) {s : Session} (hs : s.builder = {})
    (w : World) :
    ∃ left : Builder, perform (fillQuery room o) s w =
      match o.builder room with
      | .ok builder => ((.ok (), { s with builder }), w)
      | .error fault => ((.error fault, { s with builder := left }), w) := by
  have hrest (condition : Option Condition) :
      ∃ left : Builder, perform (fillRest o) { s with builder := { condition } } w =
        match (do
          let columns ← Columns.ofValue (.ofText? o.orderBy)
          return {
            condition, columns, limit := o.limit, offset := o.offset, fuzzy := .bool o.fuzzy,
            asArray := .bool true } : Except Fault Builder) with
        | .ok builder => ((.ok (), { s with builder }), w)
        | .error fault => ((.error fault, { s with builder := left }), w) := by
    refine ⟨{ condition }, ?_⟩
    rw [perform_fillRest o condition rfl]
    cases Columns.ofValue (.ofText? o.orderBy) <;> rfl
  unfold fillQuery SearchOptions.builder SearchOptions.node
  dsimp only
  cases filled? o.condition with
  | none =>
    have hsame : s = { s with builder := { condition := none } } := by rw [← hs]
    have hnone := hrest none
    rw [← hsame] at hnone
    exact hnone
  | some text =>
    dsimp only
    cases hread : Json.read room text with
    | error fault => exact ⟨s.builder, rfl⟩
    | ok v =>
      have hcall := perform_call (.condition v) s w
      rw [hs, apply_condition _ (Json.isOverlong_read hread)] at hcall
      obtain ⟨left, hleft⟩ := hrest (conditionOf v)
      exact ⟨left, (perform_bind_ok hcall).trans hleft⟩

/-- What is known of the query of a search once it was put together. -/
structure SearchOptions.Asked (room : Nat) (o : SearchOptions) (spec : Spec) : Prop where
  condition : o.node room = .ok spec.condition
  columns : Columns.ofValue (.ofText? o.orderBy) = .ok spec.columns
  limit : Check.bound o.limit = .ok spec.limit
  offset : Check.bound o.offset = .ok spec.offset
  asArray : spec.asArray = true
  indexBy : spec.indexBy = none

theorem SearchOptions.asked_of_spec {room : Nat} {o : SearchOptions} {spec : Spec}
    (h : o.spec room = .ok spec) : o.Asked room spec := by
  unfold SearchOptions.spec SearchOptions.builder at h
  cases hnode : o.node room with
  | error fault =>
    rw [hnode] at h
    cases h
  | ok condition =>
    cases hcolumns : Columns.ofValue (.ofText? o.orderBy) with
    | error fault =>
      rw [hnode, hcolumns] at h
      cases h
    | ok columns =>
      rw [hnode, hcolumns] at h
      obtain ⟨hcondition, horder, hlimit, hoffset, -, harray, hindex⟩ := Builder.parts_of_build h
      exact {
        condition := hnode.trans (congrArg Except.ok hcondition.symm)
        columns := hcolumns.trans (congrArg Except.ok horder.symm)
        limit := hlimit
        offset := hoffset
        asArray := (Checked.ok.inj harray).symm
        indexBy := (Checked.ok.inj hindex).symm }

/-! ## Asking -/

/-- Asks an open engine for what a search wants, and writes the answer down. -/
def answer (o : SearchOptions) (e : Engine) (p : Prepared) (r : Request) : Step String :=
  if o.count then do
    let total ← e.countNoted r
    World.report .debug Session.source
      ("Counted " ++ toString total ++ " documents for " ++ Text.quoted p.query)
    return toString total
  else do
    let hits ← e.searchNoted r
    let rows := (hits.filterMap Hit.document?).map (·.fields)
    World.report .debug Session.source
      ("Fetched " ++ toString rows.length ++ " documents for " ++ Text.quoted p.query)
    Json.write rowLayout (findingsValue (.list (rows.map .row)))

theorem along_answer {R : World → World → Prop} {allowed : Purpose → Prop} (h : Path R allowed)
    (o : SearchOptions) {e : Engine} (p : Prepared) {r : Request}
    (hsearch : Along R (e.searchNoted r).run) (hcount : Along R (e.countNoted r).run) :
    Along R (answer o e p r).run := by
  unfold answer
  split
  · refine h.next hcount fun total => ?_
    exact h.next (h.plain (h.told _ _ _)) fun _ => h.ok _
  · refine h.next hsearch fun hits => ?_
    exact h.next (h.plain (h.told _ _ _)) fun _ => h.checked _

/-- All that asking comes to: what is to be shown, the query text that was prepared, if any,
and the connection behind it. -/
def answered (room : Nat) (o : SearchOptions) (s : Session) (w : World) :
    (Except Fault String × Option String × Connection) × World :=
  match o.spec room with
  | .error fault => ((.error fault, none, s.connection), w)
  | .ok spec =>
    match s.connection.ready.run w with
    | ((.error fault, c), w) => ((.error fault, none, c), w)
    | ((.ok e, c), w) =>
      match spec.prepare s.mode { index := s.index } with
      | (.error fault, _) => ((.error fault, none, c), w)
      | (.ok prepared, r) =>
        (((((answer o e prepared r).run.run w).1, some prepared.query, c)),
          ((answer o e prepared r).run.run w).2)

/-- The number that a search counts, as a text. -/
def countText (spec : Spec) : Run String := do return toString (← Session.fetchCount spec)

/-- The rows that a search finds, as a text. -/
def rowsText (spec : Spec) : Run String := do
  Json.write rowLayout (findingsValue (← Session.fetchAll spec))

theorem perform_countText {o : SearchOptions} (hcount : o.count = true) (spec : Spec)
    (s : Session) (w : World) :
    perform (countText spec) s w =
      match s.connection.ready.run w with
      | ((.error fault, c), w) => ((.error fault, { s with connection := c }), w)
      | ((.ok e, c), w) =>
        match spec.prepare s.mode { index := s.index } with
        | (.error fault, _) => ((.error fault, { s with connection := c }), w)
        | (.ok prepared, r) =>
          ((((answer o e prepared r).run.run w).1,
            { s with connection := c, query := some prepared.query }),
            ((answer o e prepared r).run.run w).2) := by
  unfold countText fetchCount
  rw [perform_bind, perform_opened]
  rcases s.connection.ready.run w with ⟨⟨outcome, c⟩, w'⟩
  cases outcome with
  | error fault => rfl
  | ok e =>
    dsimp only
    rcases spec.prepare s.mode { index := s.index } with ⟨outcome, r⟩
    cases outcome with
    | error fault => rfl
    | ok prepared =>
      dsimp only
      unfold answer
      rw [if_pos hcount, run_bind, perform_bind, perform_onEngine]
      rcases (e.countNoted r).run.run w' with ⟨outcome, w''⟩
      cases outcome <;> rfl

theorem perform_rowsText {room : Nat} {o : SearchOptions} (hcount : o.count = false) {spec : Spec}
    (hspec : o.Asked room spec) (s : Session) (w : World) :
    perform (rowsText spec) s w =
      match s.connection.ready.run w with
      | ((.error fault, c), w) => ((.error fault, { s with connection := c }), w)
      | ((.ok e, c), w) =>
        match spec.prepare s.mode { index := s.index } with
        | (.error fault, _) => ((.error fault, { s with connection := c }), w)
        | (.ok prepared, r) =>
          ((((answer o e prepared r).run.run w).1,
            { s with connection := c, query := some prepared.query }),
            ((answer o e prepared r).run.run w).2) := by
  unfold rowsText fetchAll rows
  rw [hspec.indexBy, perform_bind, perform_bind, perform_opened]
  rcases s.connection.ready.run w with ⟨⟨outcome, c⟩, w'⟩
  cases outcome with
  | error fault => rfl
  | ok e =>
    dsimp only
    rcases spec.prepare s.mode { index := s.index } with ⟨outcome, r⟩
    cases outcome with
    | error fault => rfl
    | ok prepared =>
      dsimp only
      unfold answer
      rw [hcount, if_neg Bool.false_ne_true, run_bind, perform_bind, perform_onEngine]
      rcases (e.searchNoted r).run.run w' with ⟨outcome, w''⟩
      cases outcome with
      | error fault => rfl
      | ok hits =>
        dsimp only
        generalize (hits.filterMap Hit.document?).map (·.fields) = rows
        have hfetched : perform (do
              World.report .debug Session.source ("Fetched " ++ toString rows.length ++
                " documents for " ++ Text.quoted prepared.query)
              return rows : Run (List Fields))
            { s with connection := c, query := some prepared.query } w'' =
          ((.ok rows, _), _) := rfl
        rw [hfetched]
        dsimp only
        rw [perform_bind_ok (perform_shape hspec.asArray rows _ _)]
        rfl

/-- The search behind the putting together of its query. -/
def answerBuilt (o : SearchOptions) : Run String := do
  if o.count then return toString (← Session.count)
  else Json.write rowLayout (findingsValue (← Session.all))

theorem perform_answerBuilt (o : SearchOptions) (s : Session) (w : World) :
    perform (answerBuilt o) s w =
      match s.builder.build with
      | .error fault => ((.error fault, s), w)
      | .ok spec => perform (if o.count then countText spec else rowsText spec) s w := by
  have hbuild : perform build s w = ((s.builder.build, s), w) := rfl
  unfold answerBuilt countText rowsText Session.count Session.all
  cases o.count with
  | true =>
    rw [if_pos rfl, perform_bind, perform_bind, hbuild]
    cases s.builder.build with
    | error fault => rfl
    | ok spec =>
      dsimp only
      rw [if_pos rfl, perform_bind]
  | false =>
    rw [if_neg Bool.false_ne_true, perform_bind, perform_bind, hbuild]
    cases s.builder.build with
    | error fault => rfl
    | ok spec =>
      dsimp only
      rw [if_neg Bool.false_ne_true, perform_bind]

/-- A search does what its steps in a row do. -/
theorem perform_answerText (room : Nat) (o : SearchOptions) {s : Session} (hs : s.builder = {})
    (hquery : s.query = none) (w : World) :
    let run := perform (answerText room o) s w
    ((run.1.1, run.1.2.query, run.1.2.connection), run.2) = answered room o s w := by
  obtain ⟨left, hfill⟩ := perform_fillQuery room o hs w
  have htext : answerText room o = fillQuery room o >>= fun _ => answerBuilt o := rfl
  have hspec : o.spec room = o.builder room >>= fun b => b.build := rfl
  dsimp only
  unfold answered
  rw [htext]
  cases hbuilder : o.builder room with
  | error fault =>
    rw [hbuilder] at hfill hspec
    rw [perform_bind_error hfill, hspec, hquery]
    rfl
  | ok builder =>
    rw [hbuilder] at hfill
    replace hspec : o.spec room = builder.build := hspec.trans (congrArg (· >>= _) hbuilder)
    rw [perform_bind_ok hfill, perform_answerBuilt]
    dsimp only
    cases hbuild : builder.build with
    | error fault =>
      rw [hspec, hbuild, hquery]
    | ok spec =>
      have hknown := hspec.trans hbuild
      have hasked := SearchOptions.asked_of_spec hknown
      have hrun : perform (if o.count then countText spec else rowsText spec)
          { s with builder } w =
          match s.connection.ready.run w with
          | ((.error fault, c), w) => ((.error fault, { s with builder, connection := c }), w)
          | ((.ok e, c), w) =>
            match spec.prepare s.mode { index := s.index } with
            | (.error fault, _) => ((.error fault, { s with builder, connection := c }), w)
            | (.ok prepared, r) =>
              ((((answer o e prepared r).run.run w).1,
                { s with builder, connection := c, query := some prepared.query }),
                ((answer o e prepared r).run.run w).2) := by
        cases hcount : o.count with
        | true => exact perform_countText hcount spec { s with builder } w
        | false => exact perform_rowsText hcount hasked { s with builder } w
      rw [hknown]
      dsimp only
      rw [hrun]
      rcases s.connection.ready.run w with ⟨⟨outcome, c⟩, w'⟩
      cases outcome with
      | error fault =>
        dsimp only
        rw [hquery]
      | ok e =>
        dsimp only
        rcases spec.prepare s.mode { index := s.index } with ⟨outcome, r⟩
        cases outcome with
        | error fault =>
          dsimp only
          rw [hquery]
        | ok prepared => rfl

/-! ## From beginning to end -/

/-- The request that a search begins with. -/
def SearchOptions.blank (o : SearchOptions) : Request where
  index := ((filled? o.index).map indexType).map (·.indexName)

/-- The kinds of engines that a search knows. -/
def standardKinds : List (String × EngineKind) := [("solr", .solr), ("opensearch", .openSearch)]

/-- The outside once these kinds are known. -/
def introduced (w : World) : World :=
  { w with events := w.events ++ [
      ⟨.info, Registry.source, "Registered adapter: solr"⟩,
      ⟨.info, Registry.source, "Registered adapter: opensearch"⟩] }

theorem run_standard (w : World) :
    Registry.standard.run w = ({ kinds := standardKinds }, introduced w) := by
  unfold introduced
  rw [List.append_cons]
  rfl

/-- Everything that a search can come to: its query cannot be put together, no engine can be
opened, the query cannot be prepared, or the engine is asked and the answer is printed; and an
engine that was opened is stopped. -/
theorem run_search (around : Surroundings) (o : SearchOptions) (s : Settings) (w : World) :
    (search around o s).run w =
      match o.spec around.room with
      | .error fault => (.error fault, introduced w)
      | .ok spec =>
        match (Connection.opening s.search standardKinds).run.run (introduced w) with
        | (.error fault, w) => (.error fault, w)
        | (.ok e, w) =>
          match spec.prepare (.ofGrouping s.groupFields) o.blank with
          | (.error fault, _) =>
            (.error fault, ((Registry.stopOne s.search.defaultEngine e).run w).2)
          | (.ok prepared, r) =>
            let answer := (answer o e prepared r).run.run w
            ((answer.1 >>= printable around).map fun text =>
                { text, query := some prepared.query, seen := answer.2.events.length },
              ((Registry.stopOne s.search.defaultEngine e).run answer.2).2) := by
  let started := sessionFor o s { kinds := standardKinds }
  let finish (answer : (Except Fault String × Option String × Connection) × World) :
      Except Fault Shown × World :=
    ((answer.1.1 >>= printable around).map fun text =>
        { text, query := answer.1.2.1, seen := answer.2.events.length },
      (answer.1.2.2.close.run answer.2).2)
  have hsearch : (search around o s).run w =
      finish (answered around.room o started (introduced w)) := by
    rw [← perform_answerText around.room o rfl rfl]
    unfold search
    rw [StateT.run_bind, run_standard]
    rfl
  have hconnection : started.connection = .holding s.search standardKinds none := rfl
  have hmode : started.mode = .ofGrouping s.groupFields := rfl
  have hblank : { index := started.index } = o.blank := rfl
  rw [hsearch]
  unfold answered
  rw [hconnection, hmode, hblank]
  cases o.spec around.room with
  | error fault => rfl
  | ok spec =>
    dsimp only
    rw [Connection.ready_closed]
    rcases (Connection.opening s.search standardKinds).run.run (introduced w) with ⟨outcome, w'⟩
    cases outcome with
    | error fault => rfl
    | ok e =>
      dsimp only
      rcases spec.prepare (.ofGrouping s.groupFields) o.blank with ⟨outcome, r⟩
      cases outcome with
      | error fault => rfl
      | ok prepared => rfl

/-- Asking and stopping lose nothing that was told before. -/
theorem told_answer (o : SearchOptions) (e : Engine) (p : Prepared) (r : Request) (w : World) :
    w.events <+: ((answer o e p r).run.run w).2.events :=
  along_answer path_told o p (path_told.searchNoted trivial (fun _ _ => List.prefix_rfl) e r)
    (path_told.countNoted trivial (fun _ _ => List.prefix_rfl) e r) w

theorem told_stopOne (name : String) (e : Engine) (w : World) :
    w.events <+: ((Registry.stopOne name e).run w).2.events := by
  rw [Registry.run_stopOne]
  exact List.prefix_append _ _

/-- No engine is open before a search opens one. -/
theorem untold_introduced (settings : SearchSettings) (w : World) :
    ¬ Tells (Connection.openedEvent settings.defaultEngine) w (introduced w) := by
  rintro ⟨told, htold, hopened⟩
  rw [← List.append_cancel_left htold] at hopened
  simp [Connection.openedEvent, Connection.source, Registry.source] at hopened

/-- What opening an engine tells, and that the engine then has a client. -/
theorem opens_introduced (settings : SearchSettings) (w : World) :
    match (Connection.opening settings standardKinds).run.run (introduced w) with
    | (.ok e, w') =>
      e.hasClient = true ∧ ∀ w'', w'.events <+: w''.events →
        Tells (Connection.openedEvent settings.defaultEngine) w w''
    | (.error _, w') => ¬ Tells (Connection.openedEvent settings.defaultEngine) w w' := by
  have hopening := Connection.begins_opening settings standardKinds (introduced w)
  rcases hopened : (Connection.opening settings standardKinds).run.run (introduced w)
    with ⟨outcome, w'⟩
  rw [hopened] at hopening
  cases outcome with
  | error fault =>
    rintro ⟨told, hevents, hmem⟩
    exact untold_introduced settings w ⟨told, hopening.symm.trans hevents, hmem⟩
  | ok e =>
    obtain ⟨hkind, hclient, told, htold⟩ := hopening
    refine ⟨hclient fun hshelf => ?_, ?_⟩
    · rw [hshelf, standardKinds, List.lookup_cons, List.lookup_cons, List.lookup_nil] at hkind
      split at hkind
      · cases hkind
      · split at hkind <;> cases hkind
    · rintro w'' ⟨more, hmore⟩
      rw [htold, introduced, List.append_assoc w.events] at hmore
      exact tells_of_append hmore.symm

end SearchQuery.CommandLine
