-- What a command line can ask for, and what carrying an order out comes to once its settings
-- are there.
import SearchQuery.CommandLine.Run

namespace SearchQuery.CommandLine

/-! ## Steps that come to something -/

section

variable {α β ε : Type}

/-- Two steps come to something only if the first one does. -/
theorem both_of_bind {x : Except ε α} {f : α → Except ε β} {b : β} (h : x >>= f = .ok b) :
    ∃ a, x = .ok a ∧ f a = .ok b := by
  cases x with
  | error e => cases h
  | ok a => exact ⟨a, rfl, h⟩

theorem ok_of_toOption {x : Except ε α} {a : α} (h : x.toOption = some a) : x = .ok a := by
  cases x with
  | error e => cases h
  | ok b =>
    cases h
    rfl

theorem ok_of_mapError {δ : Type} {x : Except ε α} {f : ε → δ} {a : α}
    (h : x.mapError f = .ok a) : x = .ok a := by
  cases x with
  | error e => cases h
  | ok b =>
    cases h
    rfl

/-- What every step of a row of steps preserves holds behind the row. -/
theorem holds_after_steps {p : β → Prop} {step : β → α → Except ε β}
    (hstep : ∀ b a b', p b → step b a = .ok b' → p b') {as : List α} {b b' : β} (hb : p b)
    (h : as.foldlM step b = .ok b') : p b' := by
  induction as generalizing b with
  | nil =>
    cases h
    exact hb
  | cons a as ih =>
    rw [List.foldlM_cons] at h
    obtain ⟨next, hnext, hrest⟩ := both_of_bind h
    exact ih (hstep b a next hb hnext) hrest

end

/-! ## What can be read -/

/-- The settings of an order are there and can be used: `told` is what is told while they are
loaded, `setup` what the log is set up to. -/
structure Order.Loads (around : Surroundings) (o : Order) (told : List String) (s : Settings)
    (setup : Log.Setup) : Prop where
  loaded : settingsFor around o = .ok { told, settings := .ok s }
  log : Log.Setup.ofSettings (o.adjust s).log = .ok setup

/-- An order with such settings is carried out. -/
theorem run_loaded {around : Surroundings} {time : String} {line : List String} {o : Order}
    {told : List String} {s : Settings} {setup : Log.Setup} (hread : read line = .ok o)
    (h : o.Loads around told s setup) (w : World) :
    (run around time line).run w =
      let (report, w') := (carryOut around setup time (o.adjust s) o.command).run w
      ({ report with err := told ++ report.err }, w') := by
  unfold run obey
  rw [hread]
  dsimp only
  rw [h.loaded]
  dsimp only
  unfold carryOutUnder
  dsimp only [bind, Except.bind]
  rw [h.log]
  rfl

theorem adjust_keeps (order : Order) (s : Settings) :
    (order.adjust s).groupFields = s.groupFields ∧ (order.adjust s).search = s.search := by
  unfold Order.adjust
  cases order.logLevel <;> exact ⟨rfl, rfl⟩

theorem run_compiling {around : Surroundings} {time : String} {line : List String}
    {order : Order} {o : CompileOptions} {told : List String} {s : Settings} {setup : Log.Setup}
    (hread : read line = .ok order) (hcommand : order.command = .compile o)
    (hloads : order.Loads around told s setup) (w : World) :
    (run around time line).run w =
      match compileText around.room o s.groupFields >>= printable around with
      | .ok query => ({ ending := .done 0, out := query ++ "\n", err := told }, w)
      | .error fault => (failure told fault, w) := by
  have hcarry : (carryOut around setup time (order.adjust s) (.compile o)).run w =
      (match compileText around.room o (order.adjust s).groupFields >>= printable around with
        | .ok text => { ending := .done 0, out := text ++ "\n" }
        | .error fault => failure [] fault, w) := rfl
  rw [run_loaded hread hloads, hcommand, hcarry, (adjust_keeps order s).1]
  cases compileText around.room o s.groupFields >>= printable around with
  | ok query =>
    dsimp only
    rw [List.append_nil]
  | error fault => rfl

/-- A search is carried out by searching; then comes what is printed and logged. -/
theorem run_carryOut_search (around : Surroundings) (setup : Log.Setup) (time : String)
    (s : Settings) (o : SearchOptions) (w : World) :
    (carryOut around setup time s (.search o)).run w =
      match (search around o s).run w with
      | (.ok shown, w') =>
        ({ ending := .done 0, out := shown.text ++ "\n",
           err := logLines setup time ((w'.events.take shown.seen).drop w.events.length) ++
             ["query: " ++ shownQuery shown.query] ++
             logLines setup time (w'.events.drop shown.seen) }, w')
      | (.error fault, w') =>
        (failure (logLines setup time (w'.events.drop w.events.length)) fault, w') := by
  unfold carryOut
  dsimp only
  rcases hsearch : (search around o s).run w with ⟨outcome, w'⟩
  have hrun (rest : Except Fault Shown → Act Report) :
      (search around o s >>= rest).run w = (rest outcome).run w' := by
    rw [StateT.run_bind, hsearch]
    rfl
  rw [StateT.run_bind]
  show StateT.run (search around o s >>= _) w = _
  rw [hrun]
  cases outcome <;> rfl

/-- A search under settings that are there. -/
theorem run_searching {around : Surroundings} {time : String} {line : List String}
    {order : Order} {search : SearchOptions} {told : List String} {s : Settings}
    {setup : Log.Setup} (hread : read line = .ok order) (hcommand : order.command = .search search)
    (hloads : order.Loads around told s setup) (w : World) :
    (run around time line).run w =
      match (CommandLine.search around search (order.adjust s)).run w with
      | (.ok shown, w') =>
        ({ ending := .done 0, out := shown.text ++ "\n",
           err := told ++ (logLines setup time ((w'.events.take shown.seen).drop w.events.length) ++
             ["query: " ++ shownQuery shown.query] ++
             logLines setup time (w'.events.drop shown.seen)) }, w')
      | (.error fault, w') =>
        (failure (told ++ logLines setup time (w'.events.drop w.events.length)) fault, w') := by
  rw [run_loaded hread hloads, hcommand, run_carryOut_search]
  rcases (CommandLine.search around search (order.adjust s)).run w with ⟨outcome, w'⟩
  cases outcome with
  | ok shown => rfl
  | error fault =>
    unfold failure
    dsimp only
    rw [List.append_assoc]

theorem failed_failure (logged : List String) (fault : Fault) :
    (failure logged fault).ending ≠ .done 0 := by
  unfold failure codeOf
  split <;> simp

/-! ## Orders without settings -/

/-- Without settings of its own an order loads the settings that nobody gave. -/
theorem loads_nothing {o : Order} (hconfig : o.config = none) (hlevel : o.logLevel = none) :
    o.Loads {} [] {} {} where
  loaded := by
    unfold settingsFor
    rw [hconfig]
    rfl
  log := by
    unfold Order.adjust
    rw [hlevel]
    rfl

section

variable {ω : Type}

theorem wordOf_plain (g : Grammar ω) {s : String} (h : "-".isPrefixOf s = false) :
    g.wordOf s = .ok .argument := by
  unfold Grammar.wordOf
  rw [h]
  rfl

theorem ne_divider {s : String} (h : "-".isPrefixOf s = false) : (s == "--") = false := by
  rw [beq_eq_false_iff_ne]
  rintro rfl
  revert h
  decide +kernel

theorem words_plain (g : Grammar ω) {line : List String}
    (h : ∀ s ∈ line, "-".isPrefixOf s = false) :
    g.words line = .ok (line.map fun s => (s, .argument)) := by
  induction line with
  | nil => rfl
  | cons s line ih =>
    have hs := h s List.mem_cons_self
    unfold Grammar.words
    rw [ne_divider hs, wordOf_plain g hs, ih fun t ht => h t (List.mem_cons_of_mem s ht)]
    rfl

end

/-- A condition without a minus at its front is compiled as it is. -/
theorem read_compile {text : String} (h : "-".isPrefixOf text = false) :
    read ["compile", text] = .ok { command := .compile { condition := text } } := by
  have hmain : mainGrammar.parse ["compile", text] =
      { taken := [.operand ["compile", text]] } := by
    unfold Grammar.parse
    rw [words_plain mainGrammar fun s hs => ?_]
    · rfl
    · simp only [List.mem_cons, List.not_mem_nil, or_false] at hs
      rcases hs with rfl | rfl
      · decide +kernel
      · exact h
  have hvalues : Operand.single.values [(text, (.argument : Word CompileKey))] = [text] := by
    unfold Operand.values
    simp [ne_divider h]
  have hcompile : compileGrammar.parse [text] = { taken := [.operand [text]] } := by
    unfold Grammar.parse
    rw [words_plain compileGrammar fun s hs => (List.mem_singleton.mp hs) ▸ h]
    show (compileGrammar.takeApart 2 none []).after
      [.operand (Operand.single.values [(text, .argument)])] = _
    rw [hvalues]
    rfl
  have hread : readCommand "compile" [text] =
      .ok (.compile { condition := text }, []) := by
    show readCompile [text] = _
    unfold readCompile
    rw [hcompile]
    rfl
  have htake : Reading.take {} (.operand ["compile", text]) =
      .ok { command := some (.compile { condition := text }, []) } := by
    have hchoice : choice "command" commandNames "compile" = .ok "compile" := rfl
    show ((choice "command" commandNames "compile").mapError _ >>= fun name =>
      readCommand name [text] >>= _) = _
    rw [hchoice]
    show readCommand "compile" [text] >>= _ = _
    rw [hread]
    rfl
  unfold read
  rw [hmain]
  show ([Taken.operand ["compile", text]].foldlM Reading.take {} >>= _) = _
  rw [List.foldlM_cons, htake]
  rfl

/-- Lines of a condition alone are known by their parts. -/
theorem read_eq_search {line : List String} {condition : String} {count : Bool}
    (h : (match read line with
      | .ok ⟨none, none, .search ⟨none, some c, none, .null, .null, false, n⟩⟩ =>
        decide (c = condition ∧ n = count)
      | _ => false) = true) :
    read line = .ok { command := .search { condition := some condition, count } } := by
  split at h
  · obtain ⟨rfl, rfl⟩ := of_decide_eq_true h
    assumption
  · cases h

end SearchQuery.CommandLine
