-- How an engine is found when it is asked how it is. There is always a report. It is healthy only
-- if the engine says so in its own word, and unhealthy, with the text of what went wrong, if
-- anything does on the way.
import SearchQuery.Proofs.FreshRequests
import SearchQuery.Proofs.Openings

namespace SearchQuery

/-! ## One exchange -/

/-- The report for what came back. -/
def Solr.reportOf (s : Solr) (outcome : Outcome) : Health :=
  match s.healthOf outcome with
  | .ok report => report
  | .error text => .unhealthy text

theorem Solr.run_health (s : Solr) (w : World) :
    s.health.run w =
      if s.live then (s.reportOf w.outcome, w.asked (.get s.pingPath))
      else (.unhealthy "Client not initialized", w) := by
  unfold health reportOf
  cases s.live with
  | false => rfl
  | true =>
    simp only [Bool.not_true, if_true]
    show (World.ask (.get s.pingPath) >>= _).run w = _
    rw [StateT.run_bind, World.run_ask]
    dsimp only [bind]
    cases s.healthOf w.outcome <;> rfl

/-- The report for what came back. -/
def OpenSearch.reportOf (outcome : Outcome) : Health :=
  match outcome.body? with
  | .error failure => .unhealthy failure.text
  | .ok answer =>
    match healthOf answer with
    | .ok report => report
    | .error fault => .unhealthy fault.message

theorem OpenSearch.run_health (o : OpenSearch) (w : World) :
    o.health.run w =
      if o.live then (reportOf w.outcome, w.asked .clusterHealth)
      else (.unhealthy "Client not initialized", w) := by
  unfold health reportOf
  cases o.live with
  | false => rfl
  | true =>
    simp only [Bool.not_true, if_true]
    show (World.ask .clusterHealth >>= _).run w = _
    rw [StateT.run_bind, World.run_ask]
    dsimp only [bind]
    cases w.outcome.body? with
    | error failure => rfl
    | ok answer =>
      dsimp only
      cases healthOf answer <;> rfl

namespace Engine

/-- The calls by which an engine is asked how it is. -/
def checkup : Engine → List Call
  | .solr s => if s.live then [.get s.pingPath] else []
  | .openSearch o => if o.live then [.clusterHealth] else []
  | .shelf _ => [.shelfHealth]

/-- What the engine answers, with the next reply at hand. -/
def answer (e : Engine) (outcome : Outcome) : Except Fault Health :=
  match e with
  | .solr s => .ok (if s.live then s.reportOf outcome else .unhealthy "Client not initialized")
  | .openSearch o =>
    .ok (if o.live then OpenSearch.reportOf outcome else .unhealthy "Client not initialized")
  | .shelf s =>
    if s.failing.contains "health" then .error (.clientRuntime "health failed")
    else .ok { status := "healthy" }

/-- The outside behind the asking. A reply is taken only if there is a client. -/
def checked (e : Engine) (w : World) : World :=
  { w with
    calls := w.calls ++ e.checkup
    replies := if e.hasClient then w.replies.tail else w.replies }

theorem run_health (e : Engine) (w : World) :
    e.health.run.run w = (e.answer w.outcome, e.checked w) := by
  cases e with
  | solr s =>
    have hlift : (Engine.solr s).health.run.run w =
        (.ok (s.health.run w).1, (s.health.run w).2) := rfl
    rw [hlift, s.run_health]
    cases hlive : s.live <;> simp [answer, checked, checkup, hasClient, hlive, World.asked]
  | openSearch o =>
    have hlift : (Engine.openSearch o).health.run.run w =
        (.ok (o.health.run w).1, (o.health.run w).2) := rfl
    rw [hlift, o.run_health]
    cases hlive : o.live <;> simp [answer, checked, checkup, hasClient, hlive, World.asked]
  | shelf s =>
    have hhealth : (Engine.shelf s).health.run.run w =
        (s.perform "health" .shelfHealth >>= fun _ => pure { status := "healthy" }).run.run w := rfl
    rw [hhealth, run_bind, Shelf.run_perform, answer]
    cases s.failing.contains "health" <;> rfl

theorem answer_closed {e : Engine} (he : e.kind ≠ .shelf) (hclosed : e.hasClient = false)
    (outcome : Outcome) : e.answer outcome = .ok (.unhealthy "Client not initialized") := by
  cases e with
  | solr s => simp [answer, show s.live = false from hclosed]
  | openSearch o => simp [answer, show o.live = false from hclosed]
  | shelf => exact absurd rfl he

/-! ## What an engine says of itself -/

/-- The engine says that it is well. -/
inductive SaysWell : Engine → Outcome → Prop
  | solr {s : Solr} {entries : List (Value × Value)}
      (ok : Value.field? "status" entries = some (.text "OK")) :
      SaysWell (.solr s) (.answered 200 (.map entries) none)
  | openSearch {o : OpenSearch} {status : Int} {entries : List (Value × Value)}
      {undecodable : Option String}
      (green : Value.field? "status" entries = some (.text "green")) :
      SaysWell (.openSearch o) (.answered status (.map entries) undecodable)

/-- The check of what came back breaks off, with this text. -/
inductive Trips : Engine → Outcome → String → Prop
  | failed {e : Engine} (failure : Failure) : Trips e (.failed failure) failure.text
  | undecodable {s : Solr} {body : Value} (complaint : String) :
      Trips (.solr s) (.answered 200 body (some complaint)) complaint
  | solrNoMap {s : Solr} {body : Value} (noMap : ∀ entries, body ≠ .map entries) :
      Trips (.solr s) (.answered 200 body none) (Fault.noMember body.typeName "get").message
  | noMap {o : OpenSearch} {status : Int} {body : Value} {undecodable : Option String}
      (noMap : ∀ entries, body ≠ .map entries) :
      Trips (.openSearch o) (.answered status body undecodable)
        (Fault.noMember body.typeName "get").message
  | unhashable {o : OpenSearch} {status : Int} {entries : List (Value × Value)}
      {undecodable : Option String} {colour : Value} {type : String}
      (told : Value.field? "status" entries = some colour)
      (noKey : colour.unhashable? = some type) :
      Trips (.openSearch o) (.answered status (.map entries) undecodable)
        (Fault.unhashable type).message

section

variable {entries : List (Value × Value)}

theorem saysWell_solr_iff {s : Solr} :
    SaysWell (.solr s) (.answered 200 (.map entries) none) ↔
      Value.field? "status" entries = some (.text "OK") := by
  refine ⟨fun h => ?_, .solr⟩
  cases h with
  | solr ok => exact ok

theorem saysWell_openSearch_iff {o : OpenSearch} {status : Int} {undecodable : Option String} :
    SaysWell (.openSearch o) (.answered status (.map entries) undecodable) ↔
      Value.field? "status" entries = some (.text "green") := by
  refine ⟨fun h => ?_, .openSearch⟩
  cases h with
  | openSearch green => exact green

theorem not_trips_solr {s : Solr} {text : String} :
    ¬ Trips (.solr s) (.answered 200 (.map entries) none) text := by
  intro h
  cases h with
  | solrNoMap noMap => exact noMap entries rfl

theorem trips_openSearch_iff {o : OpenSearch} {status : Int} {undecodable : Option String}
    {text : String} :
    Trips (.openSearch o) (.answered status (.map entries) undecodable) text ↔
      ∃ colour type, Value.field? "status" entries = some colour ∧
        colour.unhashable? = some type ∧ text = (Fault.unhashable type).message := by
  constructor
  · intro h
    cases h with
    | noMap noMap => exact absurd rfl (noMap entries)
    | unhashable told noKey => exact ⟨_, _, told, noKey, rfl⟩
  · rintro ⟨colour, type, told, noKey, rfl⟩
    exact .unhashable told noKey

end

end Engine

/-! ## Reading what came back -/

theorem Value.getD_of_noMap {v : Value} (h : ∀ entries, v ≠ .map entries) (key : String)
    (default : Value) : v.getD key default = .error (.noMember v.typeName "get") := by
  cases v with
  | map entries => exact absurd rfl (h entries)
  | _ => rfl

/-- No direction and no operator is called by such a word. -/
theorem Value.text?_eq_some_iff {v : Value} {s : String} (hdirection : ∀ d, Direction.name d ≠ s)
    (hoperator : ∀ o, Operator.name o ≠ s) : v.text? = some s ↔ v = .text s := by
  cases v with
  | direction d => simp [text?, hdirection d]
  | operator o => simp [text?, hoperator o]
  | _ => simp [text?]

theorem Value.text?_ok {v : Value} : v.text? = some "OK" ↔ v = .text "OK" :=
  text?_eq_some_iff (by rintro (_ | _) <;> decide) (by rintro (_ | _ | _) <;> decide)

theorem Value.text?_green {v : Value} : v.text? = some "green" ↔ v = .text "green" :=
  text?_eq_some_iff (by rintro (_ | _) <;> decide) (by rintro (_ | _ | _) <;> decide)

/-- A field that is left out does not hold the word. -/
theorem Value.text?_getD (found : Option Value) {default word : String} (hother : default ≠ word)
    (hword : ∀ v : Value, v.text? = some word ↔ v = .text word) :
    (found.getD (.text default)).text? = some word ↔ found = some (.text word) := by
  cases found with
  | none => simp [text?, hother]
  | some v => simp [hword]

theorem Solr.reportOf_map (s : Solr) (entries : List (Value × Value)) :
    (s.reportOf (.answered 200 (.map entries) none)).checked = true ∧
      ((s.reportOf (.answered 200 (.map entries) none)).status = "healthy" ↔
        Value.field? "status" entries = some (.text "OK")) := by
  have hother : "unknown" ≠ "OK" := by decide
  have hok := Value.text?_getD (Value.field? "status" entries) hother fun v => Value.text?_ok
  rw [← hok]
  unfold reportOf healthOf
  simp only [beq_self_eq_true, if_true, Value.getD_map, beq_iff_eq]
  split <;> simp_all

namespace OpenSearch

theorem statusOf_cases (colour : Value) :
    (∃ type, colour.unhashable? = some type ∧ statusOf colour = .error (.unhashable type)) ∨
      colour.unhashable? = none ∧ ∃ word, statusOf colour = .ok word ∧
        (word = "healthy" ↔ colour.text? = some "green") := by
  unfold statusOf
  cases htype : colour.unhashable? with
  | some type => exact Or.inl ⟨type, rfl, rfl⟩
  | none =>
    refine Or.inr ⟨rfl, ?_⟩
    split
    · next h => cases h
    · next h => exact ⟨_, rfl, by simp [h]⟩
    · next h => exact ⟨_, rfl, by simp [h]⟩
    · exact ⟨_, rfl, by simp_all⟩

theorem healthOf_map (entries : List (Value × Value)) :
    ∃ message, healthOf (.map entries) =
      (statusOf ((Value.field? "status" entries).getD (.text "red"))).map fun status =>
        { status, message := some message, checked := true } := by
  refine ⟨"Cluster: " ++ ((Value.field? "cluster_name" entries).getD .null).display ++
    ", Nodes: " ++ ((Value.field? "number_of_nodes" entries).getD .null).display, ?_⟩
  unfold healthOf
  simp only [Value.getD_map, bind, Except.bind]
  cases statusOf ((Value.field? "status" entries).getD (.text "red")) <;> rfl

theorem reportOf_map (status : Int) (entries : List (Value × Value))
    (undecodable : Option String) :
    let report := reportOf (.answered status (.map entries) undecodable)
    (∃ colour type, Value.field? "status" entries = some colour ∧
        colour.unhashable? = some type ∧ report = .unhealthy (Fault.unhashable type).message) ∨
      (∀ colour, Value.field? "status" entries = some colour → colour.unhashable? = none) ∧
        report.checked = true ∧
        (report.status = "healthy" ↔ Value.field? "status" entries = some (.text "green")) := by
  obtain ⟨message, hhealth⟩ := healthOf_map entries
  have hother : "red" ≠ "green" := by decide
  have hgreen := Value.text?_getD (Value.field? "status" entries) hother fun v => Value.text?_green
  simp only [reportOf, Outcome.body?, hhealth]
  obtain ⟨type, htype, hfault⟩ | ⟨hkey, word, hword, hhealthy⟩ :=
    statusOf_cases ((Value.field? "status" entries).getD (.text "red"))
  · rw [hfault]
    cases hfound : Value.field? "status" entries with
    | none => simp [hfound, Value.unhashable?] at htype
    | some colour =>
      rw [hfound, Option.getD_some] at htype
      exact Or.inl ⟨colour, type, rfl, htype, rfl⟩
  · rw [hword, ← hgreen]
    exact Or.inr ⟨fun colour hcolour => by simpa [hcolour] using hkey, rfl, hhealthy⟩

end OpenSearch

/-! ## True reports -/

/-- The report is true to what came back: healthy only if the engine says so, unhealthy and without
a time if the check breaks off, and with the time of the check if it does not. -/
structure Engine.Truthful (e : Engine) (outcome : Outcome) (report : Health) : Prop where
  healthy : report.status = "healthy" ↔ SaysWell e outcome
  broken (text : String) : Trips e outcome text →
    report = { status := "unhealthy", message := some text, checked := false }
  checked : (∀ text, ¬ Trips e outcome text) → report.checked = true

open Engine

/-- A check that breaks off says nothing good. -/
theorem Engine.truthful_of_trips {e : Engine} {outcome : Outcome} {text : String}
    (h : Trips e outcome text) (hwell : ¬ SaysWell e outcome)
    (hall : ∀ other, Trips e outcome other → other = text) :
    Truthful e outcome (.unhealthy text) where
  healthy := by simp [Health.unhealthy, hwell]
  broken other hother := by rw [hall other hother, Health.unhealthy]
  checked hnone := absurd h (hnone text)

theorem Solr.truthful_reportOf (s : Solr) (outcome : Outcome) :
    Truthful (.solr s) outcome (s.reportOf outcome) := by
  cases outcome with
  | failed failure => exact truthful_of_trips (.failed failure) nofun (by rintro _ ⟨⟩; rfl)
  | answered status body undecodable =>
    by_cases hstatus : status = 200
    · subst hstatus
      cases undecodable with
      | some complaint =>
        exact truthful_of_trips (.undecodable complaint) nofun (by rintro _ ⟨⟩; rfl)
      | none =>
        by_cases hmap : ∃ entries, body = .map entries
        · obtain ⟨entries, rfl⟩ := hmap
          obtain ⟨hchecked, hhealthy⟩ := s.reportOf_map entries
          exact ⟨hhealthy.trans saysWell_solr_iff.symm, fun _ h => absurd h not_trips_solr,
            fun _ => hchecked⟩
        · have hnoMap : ∀ entries, body ≠ .map entries := fun entries h => hmap ⟨entries, h⟩
          have hreport : s.reportOf (.answered 200 body none) =
              .unhealthy (Fault.noMember body.typeName "get").message := by
            simp [reportOf, healthOf, Value.getD_of_noMap hnoMap]
          rw [hreport]
          exact truthful_of_trips (.solrNoMap hnoMap) (by rintro ⟨⟩; exact hnoMap _ rfl)
            (by rintro _ ⟨⟩; rfl)
    · refine ⟨?_, ?_, fun _ => ?_⟩
      · simp only [reportOf, healthOf, beq_iff_eq, hstatus, if_false]
        exact ⟨fun h => absurd h (by decide), fun h => absurd (by cases h; rfl) hstatus⟩
      · rintro _ ⟨⟩
        all_goals exact absurd rfl hstatus
      · simp [reportOf, healthOf, hstatus]

theorem OpenSearch.truthful_reportOf (o : OpenSearch) (outcome : Outcome) :
    Truthful (.openSearch o) outcome (reportOf outcome) := by
  cases outcome with
  | failed failure => exact truthful_of_trips (.failed failure) nofun (by rintro _ ⟨⟩; rfl)
  | answered status body undecodable =>
    by_cases hmap : ∃ entries, body = .map entries
    · obtain ⟨entries, rfl⟩ := hmap
      obtain ⟨colour, type, htold, htype, hreport⟩ | ⟨hkey, hchecked, hhealthy⟩ :=
        reportOf_map status entries undecodable
      · rw [hreport]
        refine truthful_of_trips (.unhashable htold htype) (fun h => ?_) (fun other hother => ?_)
        · rw [saysWell_openSearch_iff, htold] at h
          cases h
          cases htype
        · obtain ⟨_, _, hsame, hnoKey, rfl⟩ := trips_openSearch_iff.mp hother
          cases htold.symm.trans hsame
          cases htype.symm.trans hnoKey
          rfl
      · refine ⟨hhealthy.trans saysWell_openSearch_iff.symm, fun text h => ?_, fun _ => hchecked⟩
        obtain ⟨colour, type, htold, htype, -⟩ := trips_openSearch_iff.mp h
        rw [hkey colour htold] at htype
        cases htype
    · have hnoMap : ∀ entries, body ≠ .map entries := fun entries h => hmap ⟨entries, h⟩
      have hreport : reportOf (.answered status body undecodable) =
          .unhealthy (Fault.noMember body.typeName "get").message := by
        simp only [reportOf, healthOf, Outcome.body?, Value.getD_of_noMap hnoMap]
        rfl
      rw [hreport]
      exact truthful_of_trips (.noMap hnoMap) (by rintro ⟨⟩; exact hnoMap _ rfl)
        (by rintro _ ⟨⟩ <;> first | rfl | exact absurd rfl (hnoMap _))

namespace Engine

theorem truthful_answer {e : Engine} (hopen : e.hasClient = true) (outcome : Outcome) :
    ∃ report, e.answer outcome = .ok report ∧ Truthful e outcome report := by
  cases e with
  | solr s => exact ⟨_, congrArg Except.ok (if_pos hopen), s.truthful_reportOf outcome⟩
  | openSearch o => exact ⟨_, congrArg Except.ok (if_pos hopen), o.truthful_reportOf outcome⟩
  | shelf => cases hopen

theorem checked_closed {e : Engine} (he : e.kind ≠ .shelf) (hclosed : e.hasClient = false)
    (w : World) : e.checked w = w := by
  cases e with
  | solr s =>
    have hlive : s.live = false := hclosed
    simp [checked, checkup, hasClient, hlive]
  | openSearch o =>
    have hlive : o.live = false := hclosed
    simp [checked, checkup, hasClient, hlive]
  | shelf => exact absurd rfl he

theorem checked_open {e : Engine} (hopen : e.hasClient = true) (w : World) :
    ∃ call, e.checked w = w.asked call := by
  cases e with
  | solr s =>
    have hlive : s.live = true := hopen
    exact ⟨.get s.pingPath, by simp [checked, checkup, hasClient, hlive, World.asked]⟩
  | openSearch o =>
    have hlive : o.live = true := hopen
    exact ⟨.clusterHealth, by simp [checked, checkup, hasClient, hlive, World.asked]⟩
  | shelf => cases hopen

/-- Whatever a service sends back, and in every state of the engine, asking for its health ends in
a report. Without a client no call is made. With one it is one call, and the report is true to what
came back. The engine, and the session that has it, stay as they are. -/
theorem every_check_ends_in_a_true_report {e : Engine} (he : e.kind ≠ .shelf) (w : World) :
    ∃ report w', e.health.run.run w = (.ok report, w') ∧
      (report.status = "healthy" ↔ e.hasClient = true ∧ SaysWell e w.outcome) ∧
      (e.hasClient = false → report = .unhealthy "Client not initialized" ∧ w' = w) ∧
      (e.hasClient = true → Truthful e w.outcome report ∧ ∃ call, w' = w.asked call) ∧
      ∀ s : Session, s.connection.engine = some e →
        Session.perform Session.health s w = ((.ok report, s), w') := by
  have hsession {report : Health} {w' : World} (h : e.health.run.run w = (.ok report, w'))
      (s : Session) (hs : s.connection.engine = some e) :
      Session.perform Session.health s w = ((.ok report, s), w') := by
    have hready : s.connection.ready.run w = ((.ok e, s.connection), w) := by
      unfold Connection.ready
      rw [hs]
      rfl
    unfold Session.health
    rw [Session.perform_bind, Session.perform_engine, hready]
    dsimp only
    rw [Session.perform_onEngine, h]
  cases hopen : e.hasClient with
  | false =>
    have hrun := e.run_health w
    rw [answer_closed he hopen, checked_closed he hopen] at hrun
    exact ⟨_, w, hrun, by simp [Health.unhealthy], fun _ => ⟨rfl, rfl⟩, nofun, hsession hrun⟩
  | true =>
    obtain ⟨report, hreport, htrue⟩ := truthful_answer hopen w.outcome
    have hrun := e.run_health w
    rw [hreport] at hrun
    exact ⟨report, _, hrun, by simp [htrue.healthy], nofun, fun _ => ⟨htrue, checked_open hopen w⟩,
      hsession hrun⟩

/-- A Solr that is well is healthy; one that sends a list instead of a map is not. -/
theorem a_list_is_no_sign_of_health :
    let e : Engine := .solr { live := true }
    let sent (body : Value) : World := { replies := [{ outcome := .answered 200 body none }] }
    e.kind ≠ .shelf ∧
      (∃ report w', e.health.run.run (sent (.ofFields [("status", .text "OK")])) =
        (.ok report, w') ∧ report.status = "healthy") ∧
      ∃ report w', e.health.run.run (sent (.list [])) = (.ok report, w') ∧
        report.status = "unhealthy" ∧ report.checked = false := by
  intro e sent
  have he : e.kind ≠ .shelf := by decide
  obtain ⟨well, w, hwell, hhealthy, -⟩ :=
    every_check_ends_in_a_true_report he (sent (.ofFields [("status", .text "OK")]))
  obtain ⟨ill, w', hill, -, -, htrue, -⟩ := every_check_ends_in_a_true_report he (sent (.list []))
  obtain ⟨htrue, -⟩ := htrue rfl
  have hbroken := htrue.broken _ (.solrNoMap nofun)
  exact ⟨he, ⟨well, w, hwell, hhealthy.mpr ⟨rfl, .solr rfl⟩⟩, ill, w', hill, by rw [hbroken],
    by rw [hbroken]⟩

end Engine

end SearchQuery
