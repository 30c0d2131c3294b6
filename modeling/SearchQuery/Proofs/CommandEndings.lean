-- How a command ends: by which code, with what printed, and with no engine left open.
import SearchQuery.Proofs.CommandSteps
import SearchQuery.Proofs.JsonReadings

namespace SearchQuery.CommandLine

/-! ## What a command comes to -/

/-- A text that cannot be read is what goes wrong, and anything else goes wrong in the ordinary
way. -/
theorem Command.outcome_given (command : Command) (around : Surroundings) (s : Settings)
    (w : World) :
    match command.given? with
    | none => Ordinary (command.outcome around s w)
    | some text =>
      match Json.read around.room text with
      | .ok _ => Ordinary (command.outcome around s w)
      | .error fault => command.outcome around s w = .error fault := by
  cases hgiven : command.given? with
  | none =>
    cases command with
    | compile o => cases hgiven
    | search o =>
      have hnode : o.node around.room = .ok none := by
        unfold SearchOptions.node
        rw [show filled? o.condition = none from hgiven]
      exact .map (ordinary_search (by rw [hnode]; exact .ok none) s w)
  | some text =>
    dsimp only
    cases hread : Json.read around.room text with
    | error fault => exact (outcome_of_comesTo (.unread hgiven hread)).symm
    | ok v =>
      cases command with
      | compile o =>
        obtain rfl : o.condition = text := Option.some.inj hgiven
        exact .bind (ordinary_compile (by rw [hread]; exact .ok v) s.groupFields)
          (ordinary_printable around)
      | search o =>
        have hnode : o.node around.room = .ok (conditionOf v) := by
          unfold SearchOptions.node
          rw [show filled? o.condition = some text from hgiven]
          dsimp only
          rw [hread]
          rfl
        exact .map (ordinary_search (by rw [hnode]; exact .ok _) s w)

/-- The level of the log is nothing to a search. -/
theorem run_search_adjusted (around : Surroundings) (o : SearchOptions) (order : Order)
    (s : Settings) (w : World) :
    (search around o (order.adjust s)).run w = (search around o s).run w := by
  rw [run_search, run_search, (adjust_keeps order s).1, (adjust_keeps order s).2]

section

variable {around : Surroundings} {line : List String} {order : Order} {told : List String}
  {s : Settings} {setup : Log.Setup} (hread : read line = .ok order)
  (hloads : order.Loads around told s setup) (time : String) (w : World)
include hread hloads

/-- A run ends by what its command comes to; a command that fails prints nothing. -/
theorem run_outcome :
    match order.command.outcome around s w with
    | .ok text =>
      ((run around time line).run w).1.ending = .done 0 ∧
        ((run around time line).run w).1.out = text ++ "\n"
    | .error fault => ∃ logged, ((run around time line).run w).1 = failure logged fault := by
  cases hcommand : order.command with
  | compile o =>
    rw [run_compiling hread hcommand hloads]
    unfold Command.outcome
    dsimp only
    cases compileText around.room o s.groupFields >>= printable around with
    | ok query => exact ⟨rfl, rfl⟩
    | error fault => exact ⟨_, rfl⟩
  | search o =>
    rw [run_searching hread hcommand hloads, run_search_adjusted]
    unfold Command.outcome
    dsimp only
    rcases (search around o s).run w with ⟨outcome, w'⟩
    cases outcome with
    | ok shown => exact ⟨rfl, rfl⟩
    | error fault => exact ⟨_, rfl⟩

/-- What a run leaves behind outside. -/
theorem run_world :
    ((run around time line).run w).2 =
      match order.command with
      | .compile _ => w
      | .search o => ((search around o s).run w).2 := by
  cases hcommand : order.command with
  | compile o =>
    rw [run_compiling hread hcommand hloads]
    cases compileText around.room o s.groupFields >>= printable around <;> rfl
  | search o =>
    rw [run_searching hread hcommand hloads, run_search_adjusted]
    dsimp only
    rcases (search around o s).run w with ⟨outcome, w'⟩
    cases outcome <;> rfl

end

/-! ## What a search closes -/

/-- If an engine was opened between two moments, it was closed once, by the last call of all;
otherwise nothing was closed. -/
structure ClosesWhatItOpened (opened : Event) (w w' : World) : Prop where
  closed : Tells opened w w' →
    ∃ before, w'.calls = w.calls ++ before ++ [.close] ∧ ∀ c ∈ before, c.purpose ≠ .closing
  unopened : ¬ Tells opened w w' → Makes (·.purpose ≠ .closing) w w'

theorem path_unclosing : Path (Makes (·.purpose ≠ .closing)) (· ≠ .closing) :=
  path_makes fun _ h => h

/-- An engine with a client that is stopped at the end was closed once. -/
theorem closes_opened {opened : Event} {w w' : World} {name : String} {e : Engine}
    (hclient : e.hasClient = true) (hcalls : Makes (·.purpose ≠ .closing) w w')
    (htold : Tells opened w ((Registry.stopOne name e).run w').2) :
    ClosesWhatItOpened opened w ((Registry.stopOne name e).run w').2 where
  closed _ := by
    obtain ⟨before, hbefore, hunclosing⟩ := hcalls
    have hfarewell : Registry.farewell e = [.close] := by
      cases e with
      | solr s => exact if_pos hclient
      | openSearch o => exact if_pos hclient
      | shelf s => cases hclient
    refine ⟨before, ?_, hunclosing⟩
    rw [Registry.run_stopOne, hfarewell, hbefore]
  unopened h := absurd htold h

theorem search_closes (around : Surroundings) (o : SearchOptions) (s : Settings) (w : World) :
    ClosesWhatItOpened (Connection.openedEvent s.search.defaultEngine) w
      ((search around o s).run w).2 := by
  have hopening := opens_introduced s.search w
  have hcalls : Makes (·.purpose ≠ .closing) w
      ((Connection.opening s.search standardKinds).run.run (introduced w)).2 :=
    (Makes.still rfl : Makes _ w (introduced w)).trans
      (Connection.along_opening _ _ path_unclosing (by decide) (by decide) (by decide) _)
  rw [run_search]
  cases o.spec around.room with
  | error fault =>
    exact ⟨fun h => absurd h (untold_introduced s.search w), fun _ => Makes.still rfl⟩
  | ok spec =>
    dsimp only
    rcases hopened : (Connection.opening s.search standardKinds).run.run (introduced w)
      with ⟨outcome, w'⟩
    rw [hopened] at hopening hcalls
    cases outcome with
    | error fault => exact ⟨fun h => absurd h hopening, fun _ => hcalls⟩
    | ok e =>
      obtain ⟨hclient, htells⟩ := hopening
      have hstopped (v : World) (hv : w'.events <+: v.events) :
          Tells (Connection.openedEvent s.search.defaultEngine) w
            ((Registry.stopOne s.search.defaultEngine e).run v).2 :=
        htells _ (hv.trans (told_stopOne _ e v))
      dsimp only
      rcases spec.prepare (.ofGrouping s.groupFields) o.blank with ⟨outcome, r⟩
      cases outcome with
      | error fault => exact closes_opened hclient hcalls (hstopped w' List.prefix_rfl)
      | ok prepared =>
        have hasked : Makes (·.purpose ≠ .closing) w' ((answer o e prepared r).run.run w').2 :=
          along_answer path_unclosing o prepared
            (path_unclosing.searchNoted (by decide) (fun _ _ => Makes.still rfl) e r)
            (path_unclosing.countNoted (by decide) (fun _ _ => Makes.still rfl) e r) w'
        exact closes_opened hclient (hcalls.trans hasked)
          (hstopped _ (told_answer o e prepared r w'))

/-! ## Endings -/

/-- The end of a run, by the text that its command was given: it is malformed, at a limit of the
reader, or JSON if there is one. -/
inductive EndsBy (room : Nat) (given : Option String) (report : Report) : Prop
  | malformed {text : String} {fault : Fault} {logged : List String} :
      given = some text → ¬ Json.IsJson text → ¬ Json.AtLimit room text → codeOf fault = 2 →
      report = failure logged fault → EndsBy room given report
  | stopped {text : String} {fault : Fault} {logged : List String} :
      given = some text → Json.AtLimit room text → codeOf fault = 1 →
      report = failure logged fault → EndsBy room given report
  | failed {fault : Fault} {logged : List String} :
      (∀ text, given = some text → Json.IsJson text ∧ ¬ Json.AtLimit room text) → codeOf fault = 1 →
      report = failure logged fault → EndsBy room given report
  | done : (∀ text, given = some text → Json.IsJson text ∧ ¬ Json.AtLimit room text) →
      report.ending = .done 0 → EndsBy room given report

theorem ending_failure {logged : List String} {fault : Fault} {code : Nat}
    (h : codeOf fault = code) :
    (failure logged fault).ending = .done code := congrArg Ending.done h

namespace EndsBy

variable {room : Nat} {given : Option String} {report : Report} (h : EndsBy room given report)
include h

theorem code : report.ending = .done 0 ∨ report.ending = .done 1 ∨ report.ending = .done 2 := by
  cases h with
  | malformed _ _ _ hcode h => exact .inr (.inr (h ▸ ending_failure hcode))
  | stopped _ _ hcode h => exact .inr (.inl (h ▸ ending_failure hcode))
  | failed _ hcode h => exact .inr (.inl (h ▸ ending_failure hcode))
  | done _ h => exact .inl h

theorem code_two_iff : report.ending = .done 2 ↔
    ∃ text, given = some text ∧ ¬ Json.IsJson text ∧ ¬ Json.AtLimit room text := by
  cases h with
  | malformed hgiven hjson hlimit hcode h =>
    exact iff_of_true (h ▸ ending_failure hcode) ⟨_, hgiven, hjson, hlimit⟩
  | stopped hgiven hlimit hcode h =>
    rw [h, ending_failure hcode]
    refine iff_of_false (by decide) fun ⟨text, hother, _, hno⟩ => hno ?_
    rwa [← Option.some.inj (hgiven.symm.trans hother)]
  | failed hgood hcode h =>
    rw [h, ending_failure hcode]
    exact iff_of_false (by decide) fun ⟨text, hother, hno, _⟩ => hno (hgood text hother).1
  | done hgood h =>
    rw [h]
    exact iff_of_false (by decide) fun ⟨text, hother, hno, _⟩ => hno (hgood text hother).1

theorem code_at_limit {text : String} (hgiven : given = some text)
    (hlimit : Json.AtLimit room text) : report.ending = .done 1 := by
  cases h with
  | malformed hother _ hno _ _ =>
    rw [← Option.some.inj (hgiven.symm.trans hother)] at hno
    exact absurd hlimit hno
  | stopped _ _ hcode h => exact h ▸ ending_failure hcode
  | failed hgood _ _ => exact absurd hlimit (hgood text hgiven).2
  | done hgood _ => exact absurd hlimit (hgood text hgiven).2

/-- A command that fails prints nothing. -/
theorem silent (hfailed : report.ending ≠ .done 0) : report.out = "" := by
  cases h with
  | malformed _ _ _ _ h => exact h ▸ rfl
  | stopped _ _ _ h => exact h ▸ rfl
  | failed _ _ h => exact h ▸ rfl
  | done _ h => exact absurd h hfailed

end EndsBy

section

variable {around : Surroundings} {line : List String} {order : Order} {told : List String}
  {s : Settings} {setup : Log.Setup} (hread : read line = .ok order)
  (hloads : order.Loads around told s setup) (time : String) (w : World)
include hread hloads

/-- A run whose text cannot be read fails with that, before it reaches anything outside. -/
theorem run_unread {text : String} {fault : Fault} (hgiven : order.command.given? = some text)
    (hfault : Json.read around.room text = .error fault) :
    (∃ logged, ((run around time line).run w).1 = failure logged fault) ∧
      ((run around time line).run w).2.calls = w.calls ∧
      ((run around time line).run w).2.received = w.received := by
  have hcommand := order.command.outcome_given around s w
  rw [hgiven] at hcommand
  dsimp only at hcommand
  rw [hfault] at hcommand
  have hends := run_outcome hread hloads time w
  rw [hcommand] at hends
  refine ⟨hends, ?_⟩
  rw [run_world hread hloads]
  cases hcase : order.command with
  | compile o => exact ⟨rfl, rfl⟩
  | search o =>
    rw [hcase] at hgiven
    dsimp only
    rw [search_unread (node_error hgiven hfault)]
    exact ⟨rfl, rfl⟩

/-- A run whose text, if it has one, can be read ends by one of the other two codes. -/
theorem run_read (hread' : ∀ text, order.command.given? = some text →
      ∃ v, Json.read around.room text = .ok v) :
    ((run around time line).run w).1.ending = .done 0 ∨
      ∃ logged fault, ((run around time line).run w).1 = failure logged fault ∧
        codeOf fault = 1 := by
  have hcommand : Ordinary (order.command.outcome around s w) := by
    have hcommand := order.command.outcome_given around s w
    cases hgiven : order.command.given? with
    | none =>
      rw [hgiven] at hcommand
      exact hcommand
    | some text =>
      obtain ⟨v, hv⟩ := hread' text hgiven
      rw [hgiven] at hcommand
      dsimp only at hcommand
      rw [hv] at hcommand
      exact hcommand
  have hends := run_outcome hread hloads time w
  cases houtcome : order.command.outcome around s w with
  | ok text =>
    rw [houtcome] at hends
    exact .inl hends.1
  | error fault =>
    rw [houtcome] at hends
    obtain ⟨logged, hends⟩ := hends
    exact .inr ⟨logged, fault, hends, hcommand fault houtcome⟩

theorem endsBy_run : EndsBy around.room order.command.given? ((run around time line).run w).1 := by
  cases hgiven : order.command.given? with
  | none =>
    have hnone (text : String) (h : order.command.given? = some text) :
        ∃ v, Json.read around.room text = .ok v := by
      rw [hgiven] at h
      cases h
    rcases run_read hread hloads time w hnone with hdone | ⟨logged, fault, hreport, hcode⟩
    · exact .done (fun _ h => nomatch h) hdone
    · exact .failed (fun _ h => nomatch h) hcode hreport
  | some text =>
    rcases Json.read_cases around.room text with
      hlimit | ⟨hjson, v, hv⟩ | ⟨hjson, problem, left, hfault⟩
    · obtain ⟨fault, hcode, hfault⟩ :
          ∃ fault, codeOf fault = 1 ∧ Json.read around.room text = .error fault := by
        rcases hlimit with ⟨n, h⟩ | ⟨inside, h⟩
        · exact ⟨_, rfl, h⟩
        · exact ⟨_, rfl, h⟩
      obtain ⟨⟨logged, hreport⟩, -⟩ := run_unread hread hloads time w hgiven hfault
      exact .stopped rfl hlimit hcode hreport
    · have hgood (other : String) (h : some text = some other) :
          Json.IsJson other ∧ ¬ Json.AtLimit around.room other := by
        rw [← Option.some.inj h]
        exact ⟨hjson, Json.not_atLimit_of_ok hv⟩
      have hread' (other : String) (h : order.command.given? = some other) :
          ∃ v, Json.read around.room other = .ok v := by
        rw [← Option.some.inj (hgiven.symm.trans h)]
        exact ⟨v, hv⟩
      rcases run_read hread hloads time w hread' with hdone | ⟨logged, fault, hreport, hcode⟩
      · exact .done hgood hdone
      · exact .failed hgood hcode hreport
    · obtain ⟨⟨logged, hreport⟩, -⟩ := run_unread hread hloads time w hgiven hfault
      exact .malformed rfl hjson (Json.not_atLimit_of_malformed hfault) rfl hreport

end

/-- Every command that is read from a command line, under settings that are there, comes to one
thing by its steps, whatever the engines reply. If every step succeeds the code is zero and the
text is printed. If one fails its fault is told, nothing is printed, and the code is two for a
malformed text and one for everything else; before a malformed text was told nothing outside
was reached. At one of its limits, which only very long texts have, the reader stops before it
knows that a text is malformed, and the code is one. A search whose engine was opened closes it
once, by the last call of all. -/
theorem a_command_ends_by_its_code_and_closes_its_engine (time : String) {around : Surroundings}
    {line : List String} {order : Order} {told : List String} {s : Settings}
    {setup : Log.Setup} (hread : read line = .ok order)
    (hloads : order.Loads around told s setup) (w : World) :
    let report := ((run around time line).run w).1
    let w' := ((run around time line).run w).2
    let malformed := ∃ text, order.command.given? = some text ∧ ¬ Json.IsJson text ∧
      ¬ Json.AtLimit around.room text
    (∃ outcome, order.command.ComesTo around s w outcome ∧
      ∀ other, order.command.ComesTo around s w other → other = outcome) ∧
    (∀ text, order.command.ComesTo around s w (.ok text) →
      report.ending = .done 0 ∧ report.out = text ++ "\n") ∧
    (∀ fault, order.command.ComesTo around s w (.error fault) → ∃ code logged,
      report = {
        ending := .done code, out := "", err := logged ++ Log.linesOf (complaint fault ++ "\n") } ∧
      (malformed → code = 2) ∧ (¬ malformed → code = 1)) ∧
    (report.ending = .done 0 ∨ report.ending = .done 1 ∨ report.ending = .done 2) ∧
    (report.ending = .done 2 ↔ malformed) ∧
    (report.ending = .done 2 → w'.calls = w.calls ∧ w'.received = w.received) ∧
    (∀ text, order.command.given? = some text → Json.AtLimit around.room text →
      report.ending = .done 1 ∧ (Decimal.maxDigits < text.toList.countP Char.isDigit ∨
        around.room < text.toList.countP Json.isOpening)) ∧
    (report.ending ≠ .done 0 → report.out = "") ∧
    ∀ o, order.command = .search o →
      ClosesWhatItOpened (Connection.openedEvent s.search.defaultEngine) w w' := by
  have hends := endsBy_run hread hloads time w
  have houtcome := run_outcome hread hloads time w
  refine ⟨⟨_, Command.comesTo_iff.mpr rfl, fun _ => Command.comesTo_iff.mp⟩, fun text hcomes => ?_,
    fun fault hcomes => ?_, hends.code, hends.code_two_iff, fun htwo => ?_,
    fun text hgiven hlimit => ?_, hends.silent, fun o hsearch => ?_⟩
  · rw [← outcome_of_comesTo hcomes] at houtcome
    exact houtcome
  · rw [← outcome_of_comesTo hcomes] at houtcome
    obtain ⟨logged, hreport⟩ := houtcome
    have hending := congrArg Report.ending hreport
    refine ⟨codeOf fault, logged, hreport, fun h => ?_, fun h => ?_⟩
    · exact Ending.done.inj (hending.symm.trans (hends.code_two_iff.mpr h))
    · rcases hends.code with hzero | hone | htwo
      · exact absurd (hending.symm.trans hzero) (failed_failure logged fault)
      · exact Ending.done.inj (hending.symm.trans hone)
      · exact absurd (hends.code_two_iff.mp htwo) h
  · obtain ⟨text, hgiven, hjson, hlimit⟩ := hends.code_two_iff.mp htwo
    rcases Json.read_cases around.room text with h | ⟨h, -⟩ | ⟨-, problem, left, hfault⟩
    · exact absurd h hlimit
    · exact absurd h hjson
    · exact (run_unread hread hloads time w hgiven hfault).2
  · exact ⟨hends.code_at_limit hgiven hlimit, Json.long_of_atLimit hlimit⟩
  · rw [run_world hread hloads, hsearch]
    exact search_closes around o s w

/-- An opening brace alone ends compiling by the code two, so it is no JSON; a count under the
settings that nobody gave closes the engine that it opened. -/
theorem a_brace_ends_by_two_and_a_count_is_closed_behind :
    let compiled := (run {} "" ["compile", "\x7b"]).run {}
    let counted := (run {} "" ["search", "--where", "[\"not\", \"dune\"]", "--count"]).run {}
    compiled.1.ending = .done 2 ∧ compiled.1.out = "" ∧ compiled.2.calls = [] ∧
      ¬ Json.IsJson "\x7b" ∧ Tells (Connection.openedEvent "solr") {} counted.2 ∧
      ∃ before, counted.2.calls = before ++ [.close] ∧ ∀ c ∈ before, c.purpose ≠ .closing := by
  have hcompiling : read ["compile", "\x7b"] =
      .ok { command := .compile { condition := "\x7b" } } :=
    read_compile (by decide +kernel)
  have hcounting : read ["search", "--where", "[\"not\", \"dune\"]", "--count"] =
      .ok { command := .search { condition := some "[\"not\", \"dune\"]", count := true } } :=
    read_eq_search (by decide +kernel)
  have hends : ((run {} "" ["compile", "\x7b"]).run {}).1.ending = .done 2 := by decide +kernel
  have hopened : ((run {} "" ["search", "--where", "[\"not\", \"dune\"]", "--count"]).run
      {}).2.events.contains (Connection.openedEvent "solr") = true := by decide +kernel
  have htells : Tells (Connection.openedEvent "solr") {}
      ((run {} "" ["search", "--where", "[\"not\", \"dune\"]", "--count"]).run {}).2 :=
    ⟨_, (List.nil_append _).symm, List.contains_iff_mem.mp hopened⟩
  have hcompiled := a_command_ends_by_its_code_and_closes_its_engine "" hcompiling
    (loads_nothing rfl rfl) {}
  have hcounted := a_command_ends_by_its_code_and_closes_its_engine "" hcounting
    (loads_nothing rfl rfl) {}
  obtain ⟨-, -, -, -, htwo, houtside, -, hsilent, -⟩ := hcompiled
  obtain ⟨text, hgiven, hjson, -⟩ := htwo.mp hends
  obtain ⟨-, -, -, -, -, -, -, -, hsearch⟩ := hcounted
  rw [← Option.some.inj hgiven] at hjson
  exact ⟨hends, hsilent (by rw [hends]; decide), (houtside hends).1, hjson, htells,
    (hsearch _ rfl).closed htells⟩

/-- Lists that are opened and never closed are no JSON, but when there are too many the reader
stops before it knows, and the code is one. A run whose log cannot be set up ends by no code,
although its settings are there. -/
theorem open_lists_and_a_strange_level_end_otherwise :
    let text := String.ofList (List.replicate 1300 '[')
    let around : Surroundings :=
      { environment := [("SEARCHRECORD_OBSERVABILITY__LOG_LEVEL", "basic_format")] }
    let order : Order := { command := .compile { condition := "true" } }
    (¬ Json.IsJson text ∧ ((run {} "" ["compile", text]).run {}).1.ending = .done 1) ∧
      (∃ told s, settingsFor around order = .ok { told, settings := .ok s }) ∧
      ((run around "" ["compile", "true"]).run {}).1.ending =
        .failed (.unknownLevel "'%(levelname)s:%(name)s:%(message)s'") := by
  have hread : read ["compile", String.ofList (List.replicate 1300 '[')] =
      .ok { command := .compile { condition := String.ofList (List.replicate 1300 '[') } } :=
    read_compile (by decide +kernel)
  obtain ⟨hjson, hlimit⟩ := Json.openings_atLimit (show 1000 < 1300 by decide)
  have hloaded : ((settingsFor
      { environment := [("SEARCHRECORD_OBSERVABILITY__LOG_LEVEL", "basic_format")] }
      { command := .compile { condition := "true" } }).toOption.bind
        fun loaded => loaded.settings.toOption).isSome := by decide +kernel
  refine ⟨⟨hjson, (endsBy_run hread (loads_nothing rfl rfl) "" {}).code_at_limit rfl hlimit⟩, ?_,
    by decide +kernel⟩
  obtain ⟨s, hs⟩ := Option.isSome_iff_exists.mp hloaded
  obtain ⟨⟨told, settings⟩, hsettings, hsaid⟩ := Option.bind_eq_some_iff.mp hs
  obtain rfl : settings = .ok s := ok_of_toOption hsaid
  exact ⟨told, s, ok_of_toOption hsettings⟩

end SearchQuery.CommandLine
