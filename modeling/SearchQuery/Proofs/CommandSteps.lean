-- What a command comes to by its steps: the text to print if every step succeeds, else the
-- fault of the first one that fails. Every command comes to one thing, and a run ends by it.
import SearchQuery.Proofs.OrdinaryFaults
import SearchQuery.Proofs.Orders

namespace SearchQuery.CommandLine

/-! ## The steps of a command -/

/-- The text of a condition that a command was given. -/
def Command.given? : Command → Option String
  | .compile o => some o.condition
  | .search o => filled? o.condition

/-- What an open engine gives for the request of a search: the number as a text, or the rows
written down. -/
inductive Answers (o : SearchOptions) (e : Engine) (r : Request) (w : World) :
    Except Fault String → Prop
  | uncounted {fault : Fault} :
      o.count = true → ((e.countNoted r).run.run w).1 = .error fault →
      Answers o e r w (.error fault)
  | counted {total : Int} :
      o.count = true → ((e.countNoted r).run.run w).1 = .ok total →
      Answers o e r w (.ok (toString total))
  | unfound {fault : Fault} :
      o.count = false → ((e.searchNoted r).run.run w).1 = .error fault →
      Answers o e r w (.error fault)
  | unwritten {hits : List Hit} {fault : Fault} :
      o.count = false → ((e.searchNoted r).run.run w).1 = .ok hits →
      Json.write rowLayout (.list ((hits.filterMap Hit.document?).map (.ofFields ·.fields))) =
        .error fault → Answers o e r w (.error fault)
  | written {hits : List Hit} {text : String} :
      o.count = false → ((e.searchNoted r).run.run w).1 = .ok hits →
      Json.write rowLayout (.list ((hits.filterMap Hit.document?).map (.ofFields ·.fields))) =
        .ok text → Answers o e r w (.ok text)

/-- What a command comes to. A constructor stands for each step that can fail, and for each of
the two ways to something that can be printed. -/
inductive Command.ComesTo (around : Surroundings) (s : Settings) (w : World) :
    Command → Except Fault String → Prop
  /-- The text cannot be read. -/
  | unread {command : Command} {text : String} {fault : Fault} :
      command.given? = some text → Json.read around.room text = .error fault →
      command.ComesTo around s w (.error fault)
  /-- The condition cannot be compiled. -/
  | uncompiled {o : CompileOptions} {v : Value} {fault : Fault} :
      Json.read around.room o.condition = .ok v →
      (Condition.ofValue v).compile (.ofGrouping (o.groupFields || s.groupFields)) =
        .error fault → (Command.compile o).ComesTo around s w (.error fault)
  | compiled {o : CompileOptions} {v : Value} {query : String} :
      Json.read around.room o.condition = .ok v →
      (Condition.ofValue v).compile (.ofGrouping (o.groupFields || s.groupFields)) = .ok query →
      (Command.compile o).ComesTo around s w (printable around query)
  /-- The columns to sort by cannot be read. -/
  | unsorted {o : SearchOptions} {condition : Option Condition} {fault : Fault} :
      o.node around.room = .ok condition →
      Columns.ofValue (.ofText? o.orderBy) = .error fault →
      (Command.search o).ComesTo around s w (.error fault)
  /-- The query does not pass its check. -/
  | unbuilt {o : SearchOptions} {b : Builder} {fault : Fault} :
      o.builder around.room = .ok b → b.build = .error fault →
      (Command.search o).ComesTo around s w (.error fault)
  /-- No engine can be opened. -/
  | unopened {o : SearchOptions} {spec : Spec} {fault : Fault} {w' : World} :
      o.spec around.room = .ok spec →
      (Connection.opening s.search standardKinds).run.run (introduced w) = (.error fault, w') →
      (Command.search o).ComesTo around s w (.error fault)
  /-- The window or the condition cannot be prepared. -/
  | unprepared {o : SearchOptions} {spec : Spec} {e : Engine} {w' : World} {fault : Fault}
      {r : Request} :
      o.spec around.room = .ok spec →
      (Connection.opening s.search standardKinds).run.run (introduced w) = (.ok e, w') →
      spec.prepare (.ofGrouping s.groupFields) o.blank = (.error fault, r) →
      (Command.search o).ComesTo around s w (.error fault)
  /-- The engine fails, or its rows cannot be written down. -/
  | unanswered {o : SearchOptions} {spec : Spec} {e : Engine} {w' : World} {p : Prepared}
      {r : Request} {fault : Fault} :
      o.spec around.room = .ok spec →
      (Connection.opening s.search standardKinds).run.run (introduced w) = (.ok e, w') →
      spec.prepare (.ofGrouping s.groupFields) o.blank = (.ok p, r) →
      Answers o e r w' (.error fault) → (Command.search o).ComesTo around s w (.error fault)
  | answered {o : SearchOptions} {spec : Spec} {e : Engine} {w' : World} {p : Prepared}
      {r : Request} {text : String} :
      o.spec around.room = .ok spec →
      (Connection.opening s.search standardKinds).run.run (introduced w) = (.ok e, w') →
      spec.prepare (.ofGrouping s.groupFields) o.blank = (.ok p, r) →
      Answers o e r w' (.ok text) → (Command.search o).ComesTo around s w (printable around text)

/-! ## One outcome -/

/-- Rows are written down as maps of their fields. -/
theorem findingsValue_documents (documents : List Document) :
    findingsValue (.list ((documents.map (·.fields)).map .row)) =
      .list (documents.map (.ofFields ·.fields)) := by
  show Value.list (((documents.map (·.fields)).map .row).map foundValue) = _
  rw [List.map_map, List.map_map]
  rfl

/-- What asking an engine gives. -/
theorem run_answer (o : SearchOptions) (e : Engine) (p : Prepared) (r : Request) (w : World) :
    ((answer o e p r).run.run w).1 =
      if o.count then ((e.countNoted r).run.run w).1.map toString
      else ((e.searchNoted r).run.run w).1 >>= fun hits =>
        Json.write rowLayout (.list ((hits.filterMap Hit.document?).map (.ofFields ·.fields))) := by
  unfold answer
  cases o.count with
  | true =>
    rw [if_pos rfl, if_pos rfl, run_bind]
    rcases (e.countNoted r).run.run w with ⟨outcome, w'⟩
    cases outcome <;> rfl
  | false =>
    rw [if_neg Bool.false_ne_true, if_neg Bool.false_ne_true, run_bind]
    rcases (e.searchNoted r).run.run w with ⟨outcome, w'⟩
    cases outcome with
    | error fault => rfl
    | ok hits => exact congrArg (Json.write rowLayout) (findingsValue_documents _)

theorem answers_iff {o : SearchOptions} {e : Engine} {r : Request} {w : World} (p : Prepared)
    {outcome : Except Fault String} :
    Answers o e r w outcome ↔ outcome = ((answer o e p r).run.run w).1 := by
  rw [run_answer]
  constructor
  · rintro (⟨hcount, h⟩ | ⟨hcount, h⟩ | ⟨hcount, h⟩ | ⟨hcount, h, hwrite⟩ | ⟨hcount, h, hwrite⟩)
    · rw [hcount, if_pos rfl, h]
      rfl
    · rw [hcount, if_pos rfl, h]
      rfl
    · rw [hcount, if_neg Bool.false_ne_true, h]
      rfl
    · rw [hcount, if_neg Bool.false_ne_true, h]
      exact hwrite.symm
    · rw [hcount, if_neg Bool.false_ne_true, h]
      exact hwrite.symm
  · rintro rfl
    cases hcount : o.count with
    | true =>
      rw [if_pos rfl]
      cases h : ((e.countNoted r).run.run w).1 with
      | error fault => exact .uncounted hcount h
      | ok total => exact .counted hcount h
    | false =>
      rw [if_neg Bool.false_ne_true]
      cases h : ((e.searchNoted r).run.run w).1 with
      | error fault => exact .unfound hcount h
      | ok hits =>
        dsimp only [bind, Except.bind]
        cases hwrite : Json.write rowLayout
            (.list ((hits.filterMap Hit.document?).map (.ofFields ·.fields))) with
        | error fault => exact .unwritten hcount h hwrite
        | ok text => exact .written hcount h hwrite

/-- What carrying a command out has to print, or what goes wrong. -/
def Command.outcome (around : Surroundings) (s : Settings) (w : World) :
    Command → Except Fault String
  | .compile o => compileText around.room o s.groupFields >>= printable around
  | .search o => ((CommandLine.search around o s).run w).1.map (·.text)

section

variable {around : Surroundings} {s : Settings} {w : World}

/-- What a search prints, or what goes wrong, by what its steps come to. -/
theorem outcome_search (o : SearchOptions) :
    (Command.search o).outcome around s w =
      match o.spec around.room with
      | .error fault => .error fault
      | .ok spec =>
        match (Connection.opening s.search standardKinds).run.run (introduced w) with
        | (.error fault, _) => .error fault
        | (.ok e, w') =>
          match spec.prepare (.ofGrouping s.groupFields) o.blank with
          | (.error fault, _) => .error fault
          | (.ok p, r) => ((answer o e p r).run.run w').1 >>= printable around := by
  unfold Command.outcome
  dsimp only
  rw [run_search]
  cases o.spec around.room with
  | error fault => rfl
  | ok spec =>
    dsimp only
    rcases (Connection.opening s.search standardKinds).run.run (introduced w) with ⟨outcome, w'⟩
    cases outcome with
    | error fault => rfl
    | ok e =>
      dsimp only
      rcases spec.prepare (.ofGrouping s.groupFields) o.blank with ⟨outcome, r⟩
      cases outcome with
      | error fault => rfl
      | ok p =>
        dsimp only
        cases ((answer o e p r).run.run w').1 >>= printable around <;> rfl

theorem spec_error_of_node {room : Nat} {o : SearchOptions} {fault : Fault}
    (h : o.node room = .error fault) : o.spec room = .error fault := by
  unfold SearchOptions.spec SearchOptions.builder
  rw [h]
  rfl

theorem node_error {room : Nat} {o : SearchOptions} {text : String} {fault : Fault}
    (hgiven : filled? o.condition = some text) (hread : Json.read room text = .error fault) :
    o.node room = .error fault := by
  unfold SearchOptions.node
  rw [hgiven]
  dsimp only
  rw [hread]
  rfl

theorem given_of_node_error {room : Nat} {o : SearchOptions} {fault : Fault}
    (h : o.node room = .error fault) :
    ∃ text, filled? o.condition = some text ∧ Json.read room text = .error fault := by
  unfold SearchOptions.node at h
  cases hgiven : filled? o.condition with
  | none =>
    rw [hgiven] at h
    cases h
  | some text =>
    rw [hgiven] at h
    dsimp only at h
    cases hread : Json.read room text with
    | error other =>
      rw [hread] at h
      cases h
      exact ⟨text, rfl, hread⟩
    | ok v =>
      rw [hread] at h
      cases h

theorem outcome_of_comesTo {command : Command} {outcome : Except Fault String}
    (h : command.ComesTo around s w outcome) : outcome = command.outcome around s w := by
  cases h with
  | unread hgiven hread =>
    cases command with
    | compile o =>
      obtain rfl : o.condition = _ := Option.some.inj hgiven
      unfold Command.outcome
      dsimp only
      rw [compileText_read, hread]
      rfl
    | search o =>
      rw [outcome_search, spec_error_of_node (node_error hgiven hread)]
  | uncompiled hread hcompile | compiled hread hcompile =>
    unfold Command.outcome
    dsimp only
    rw [compileText_read, hread]
    dsimp only [bind, Except.bind]
    rw [hcompile]
  | unsorted hnode hcolumns =>
    rw [outcome_search]
    unfold SearchOptions.spec SearchOptions.builder
    rw [hnode, hcolumns]
    rfl
  | unbuilt hbuilder hbuild =>
    rw [outcome_search]
    unfold SearchOptions.spec
    rw [hbuilder]
    dsimp only [bind, Except.bind]
    rw [hbuild]
  | unopened hspec hopening => simp only [outcome_search, hspec, hopening]
  | unprepared hspec hopening hprepare => simp only [outcome_search, hspec, hopening, hprepare]
  | unanswered hspec hopening hprepare hanswer | answered hspec hopening hprepare hanswer =>
    simp only [outcome_search, hspec, hopening, hprepare, ← (answers_iff _).mp hanswer]
    rfl

/-- A query that cannot be put together fails by the first of three steps. -/
theorem comesTo_of_spec_error {o : SearchOptions} {fault : Fault}
    (h : o.spec around.room = .error fault) :
    (Command.search o).ComesTo around s w (.error fault) := by
  unfold SearchOptions.spec at h
  cases hbuilder : o.builder around.room with
  | ok b =>
    rw [hbuilder] at h
    exact .unbuilt hbuilder h
  | error found =>
    obtain rfl : found = fault := by
      rw [hbuilder] at h
      cases h
      rfl
    unfold SearchOptions.builder at hbuilder
    cases hnode : o.node around.room with
    | ok condition =>
      rw [hnode] at hbuilder
      cases hcolumns : Columns.ofValue (.ofText? o.orderBy) with
      | ok columns =>
        rw [hcolumns] at hbuilder
        cases hbuilder
      | error other =>
        rw [hcolumns] at hbuilder
        cases hbuilder
        exact .unsorted hnode hcolumns
    | error other =>
      rw [hnode] at hbuilder
      cases hbuilder
      obtain ⟨text, hgiven, hread⟩ := given_of_node_error hnode
      exact .unread hgiven hread

theorem comesTo_search (o : SearchOptions) :
    (Command.search o).ComesTo around s w ((Command.search o).outcome around s w) := by
  rw [outcome_search]
  cases hspec : o.spec around.room with
  | error fault => exact comesTo_of_spec_error hspec
  | ok spec =>
    dsimp only
    rcases hopening : (Connection.opening s.search standardKinds).run.run (introduced w)
      with ⟨outcome, w'⟩
    cases outcome with
    | error fault => exact .unopened hspec hopening
    | ok e =>
      dsimp only
      rcases hprepare : spec.prepare (.ofGrouping s.groupFields) o.blank with ⟨outcome, r⟩
      cases outcome with
      | error fault => exact .unprepared hspec hopening hprepare
      | ok p =>
        dsimp only
        cases hanswer : ((answer o e p r).run.run w').1 with
        | error fault =>
          exact .unanswered hspec hopening hprepare ((answers_iff p).mpr hanswer.symm)
        | ok text =>
          exact .answered hspec hopening hprepare ((answers_iff p).mpr hanswer.symm)

theorem comesTo_compile (o : CompileOptions) :
    (Command.compile o).ComesTo around s w ((Command.compile o).outcome around s w) := by
  unfold Command.outcome
  dsimp only
  rw [compileText_read]
  cases hread : Json.read around.room o.condition with
  | error fault => exact .unread rfl hread
  | ok v =>
    dsimp only [bind, Except.bind]
    cases hcompile : (Condition.ofValue v).compile (.ofGrouping (o.groupFields || s.groupFields))
      with
    | error fault => exact .uncompiled hread hcompile
    | ok query => exact .compiled hread hcompile

/-- Every command comes to one thing, which is what carrying it out gives. -/
theorem Command.comesTo_iff {command : Command} {outcome : Except Fault String} :
    command.ComesTo around s w outcome ↔ outcome = command.outcome around s w := by
  refine ⟨outcome_of_comesTo, ?_⟩
  rintro rfl
  cases command with
  | compile o => exact comesTo_compile o
  | search o => exact comesTo_search o

end

end SearchQuery.CommandLine
