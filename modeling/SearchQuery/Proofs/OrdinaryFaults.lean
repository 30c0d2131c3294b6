-- Where a search can go wrong. Only the reading of a JSON text fails with the fault of a
-- malformed one: everything else, from the check of the query to the printing of the rows,
-- fails in the ordinary way.
import SearchQuery.Proofs.ConditionTrees
import SearchQuery.Proofs.Openings
import SearchQuery.Proofs.SearchCommand

namespace SearchQuery

variable {α β : Type}

/-! ## Outcomes -/

/-- A command that failed with this fault ends with the code for all but malformed JSON. -/
def Fault.IsOrdinary (fault : Fault) : Prop := CommandLine.codeOf fault = 1

/-- Whatever goes wrong does so in the ordinary way. -/
def Ordinary (x : Except Fault α) : Prop := ∀ fault, x = .error fault → fault.IsOrdinary

namespace Ordinary

theorem ok (a : α) : Ordinary (.ok a : Except Fault α) := fun _ h => nomatch h

theorem error {fault : Fault} (h : fault.IsOrdinary) :
    Ordinary (.error fault : Except Fault α) := by
  intro f hf
  cases hf
  exact h

theorem bind {x : Except Fault α} {f : α → Except Fault β} (hx : Ordinary x)
    (hf : ∀ a, Ordinary (f a)) : Ordinary (x >>= f) := by
  cases x with
  | ok a => exact hf a
  | error fault => exact error (hx fault rfl)

theorem map {x : Except Fault α} {f : α → β} (hx : Ordinary x) : Ordinary (x.map f) := by
  cases x with
  | ok a => exact ok _
  | error fault => exact error (hx fault rfl)

theorem mapM {f : α → Except Fault β} (hf : ∀ a, Ordinary (f a)) (as : List α) :
    Ordinary (as.mapM f) := by
  induction as with
  | nil => exact ok _
  | cons a as ih =>
    rw [List.mapM_cons]
    exact bind (hf a) fun b => bind ih fun bs => ok _

end Ordinary

/-! ## Checks -/

/-- The check goes on to its end. -/
def Checked.GoesOn (c : Checked α) : Prop := ∀ fault, c ≠ .abort fault

namespace Checked.GoesOn

theorem ok (a : α) : GoesOn (.ok a : Checked α) := fun _ h => nomatch h

theorem issues (found : List Issue) : GoesOn (.issues found : Checked α) := fun _ h => nomatch h

theorem both {c : Checked α} {d : Checked β} (hc : c.GoesOn) (hd : d.GoesOn) :
    (c.both d).GoesOn := by
  cases c with
  | abort fault => exact absurd rfl (hc fault)
  | ok a =>
    cases d with
    | abort fault => exact absurd rfl (hd fault)
    | ok b => exact ok _
    | issues found => exact issues _
  | issues found =>
    cases d with
    | abort fault => exact absurd rfl (hd fault)
    | ok b => exact issues _
    | issues found => exact issues _

theorem map {c : Checked α} (f : α → β) (hc : c.GoesOn) : (c.map f).GoesOn := by
  cases c with
  | ok a => exact ok _
  | issues found => exact issues _
  | abort fault => exact absurd rfl (hc fault)

theorem fmap {c : Checked α} (f : α → β) (hc : c.GoesOn) : (f <$> c).GoesOn := hc.map f

theorem seq {c : Checked (α → β)} {d : Checked α} (hc : c.GoesOn) (hd : d.GoesOn) :
    (c <*> d).GoesOn := (hc.both hd).map _

theorem inside {c : Checked α} (step : String) (hc : c.GoesOn) : (c.inside step).GoesOn := by
  cases c with
  | ok a => exact ok _
  | issues found => exact issues _
  | abort fault => exact absurd rfl (hc fault)

theorem all {cs : List (Checked α)} (h : ∀ c ∈ cs, c.GoesOn) : (Checked.all cs).GoesOn := by
  induction cs with
  | nil => exact ok _
  | cons c cs ih =>
    exact ((h c List.mem_cons_self).both (ih fun d hd => h d (List.mem_cons_of_mem c hd))).map _

theorem ordinary {c : Checked α} (h : c.GoesOn) : Ordinary c.toExcept := by
  cases c with
  | ok a => exact .ok a
  | issues found => exact .error rfl
  | abort fault => exact absurd rfl (h fault)

end Checked.GoesOn

namespace Check

open Checked

theorem goesOn_text (v : Value) : (text v).GoesOn := by
  unfold text
  split
  · exact .ok _
  · split
    · exact .ok _
    · exact .issues _
  · exact .issues _

theorem goesOn_intOfText (s : String) : (intOfText s).GoesOn := by
  unfold intOfText
  split
  · split
    · exact .issues _
    · exact .ok _
  · split
    · split
      · exact .issues _
      · exact .ok _
    · exact .issues _

theorem goesOn_intOfFloat (x : Float) : (intOfFloat x).GoesOn := by
  unfold intOfFloat
  split
  · split
    · exact .ok _
    · exact .issues _
  · exact .issues _
  · exact .issues _

theorem goesOn_int (v : Value) : (int v).GoesOn := by
  unfold int
  split
  · exact .ok _
  · exact .ok _
  · exact goesOn_intOfFloat _
  · split
    · exact goesOn_intOfText _
    · exact .issues _
    · exact .issues _

theorem goesOn_boolOfInt (n : Int) : (boolOfInt n).GoesOn := by
  unfold boolOfInt
  split
  · exact .ok _
  · split
    · exact .ok _
    · split <;> exact .issues _

theorem goesOn_bool (v : Value) : (bool v).GoesOn := by
  unfold bool
  split
  · exact .ok _
  · exact goesOn_boolOfInt _
  · split
    · exact goesOn_boolOfInt _
    · exact .issues _
  · split
    · split
      · exact .ok _
      · exact .issues _
    · exact .issues _

theorem goesOn_bound (v : Value) : (bound v).GoesOn := by
  unfold bound
  split
  · exact .ok _
  · exact .ok _
  · split
    · exact .ok _
    · split
      · exact .ok _
      · exact (((goesOn_int _).inside _).both ((goesOn_text _).inside _)).map _

theorem goesOn_optional {check : Value → Checked α} (h : ∀ v, (check v).GoesOn) (v : Value) :
    (optional check v).GoesOn := by
  unfold optional
  split
  · exact .ok _
  · exact (h v).map _

theorem goesOn_list {check : Value → Checked α} (h : ∀ v, (check v).GoesOn) (v : Value) :
    (list check v).GoesOn := by
  unfold list members
  split
  · refine .all fun c hc => ?_
    obtain ⟨⟨v, i⟩, -, rfl⟩ := List.mem_map.mp hc
    exact (h v).inside _
  · exact .issues _

theorem goesOn_dict {check : Value → Checked α} (h : ∀ v, (check v).GoesOn) (v : Value) :
    (dict check v).GoesOn := by
  unfold dict
  split
  · refine .map _ (.all fun c hc => ?_)
    obtain ⟨⟨k, v⟩, -, rfl⟩ := List.mem_map.mp hc
    exact (((goesOn_text k).inside _).inside _).both ((h v).inside _)
  · exact .issues _

end Check

/-! ## Values -/

namespace Value

theorem ordinary_members (v : Value) : Ordinary v.members := by
  unfold members
  split
  all_goals first | exact .ok _ | exact .error rfl

theorem ordinary_pairAt (place : Nat) (v : Value) : Ordinary (pairAt place v) := by
  unfold pairAt
  split
  · exact .error rfl
  · split
    · exact .error rfl
    · exact .ok _
  · exact .error rfl

theorem ordinary_toEntries (v : Value) : Ordinary v.toEntries := by
  unfold toEntries
  split
  · exact .ok _
  · exact .bind (ordinary_members _) fun items =>
      .bind (.mapM (fun _ => ordinary_pairAt _ _) _) fun pairs => .ok _

theorem ordinary_toInt (v : Value) : Ordinary v.toInt := by
  unfold toInt
  split
  · exact .ok _
  · exact .ok _
  · split
    · exact .ok _
    · exact .error rfl
    · exact .error rfl
  · split
    · exact .error rfl
    · split
      · exact .ok _
      · exact .error rfl
      · exact .error rfl

theorem ordinary_toFloat (v : Value) : Ordinary v.toFloat := by
  unfold toFloat
  split
  · exact .ok _
  · exact .ok _
  · split
    · exact .ok _
    · exact .error rfl
  · split
    · exact .error rfl
    · split
      · exact .ok _
      · exact .error rfl

theorem ordinary_getD (v : Value) (key : String) (default : Value) :
    Ordinary (v.getD key default) := by
  refine .map ?_
  unfold get?
  split
  · exact .ok _
  · exact .error rfl

end Value

/-! ## JSON texts that are written -/

theorem Value.ordinary_inWords (words : Value → String) (v : Value) :
    Ordinary (v.inWords words) := by
  unfold inWords
  split
  · exact .error rfl
  · exact .ok _

namespace Json

theorem ordinary_keyText (v : Value) : Ordinary (keyText v) := by
  unfold keyText
  split
  all_goals first | exact .ok _ | exact .error rfl | exact Value.ordinary_inWords _ _

mutual
theorem ordinary_writeAt (l : Layout) (level : Nat) : (v : Value) → Ordinary (writeAt l level v)
  | .list items => .map (ordinary_writeItems l level items)
  | .tuple items => .map (ordinary_writeItems l level items)
  | .map entries => .map (ordinary_writeEntries l level entries)
  | .int _ => Value.ordinary_inWords _ _
  | .set _ | .frozenSet _ => .map (Value.ordinary_inWords _ _)
  | .null | .bool _ | .float _ | .text _ | .direction _ | .operator _ | .bytes _ | .moment _
  | .condition _ => .ok _
theorem ordinary_writeItems (l : Layout) (level : Nat) :
    (items : List Value) → Ordinary (writeItems l level items)
  | [] => .ok _
  | v :: rest => .bind (ordinary_writeAt l (level + 1) v) fun _ =>
    .bind (ordinary_writeItems l level rest) fun _ => .ok _
theorem ordinary_writeEntries (l : Layout) (level : Nat) :
    (entries : List (Value × Value)) → Ordinary (writeEntries l level entries)
  | [] => .ok _
  | (k, v) :: rest => .bind (ordinary_keyText k) fun _ =>
    .bind (ordinary_writeAt l (level + 1) v) fun _ =>
      .bind (ordinary_writeEntries l level rest) fun _ => .ok _
end

end Json

/-! ## Steps of engines -/

/-- However the outside is, what goes wrong does so in the ordinary way. -/
def OrdinaryStep (p : Step α) : Prop := ∀ w, Ordinary (p.run.run w).1

namespace OrdinaryStep

theorem plain (p : Act α) : OrdinaryStep (liftM p : Step α) := fun _ => .ok _

theorem checked {x : Except Fault α} (h : Ordinary x) : OrdinaryStep (liftM x : Step α) :=
  fun _ => h

theorem ok (a : α) : OrdinaryStep (pure a : Step α) := fun _ => .ok a

theorem fail {fault : Fault} (h : fault.IsOrdinary) : OrdinaryStep (throw fault : Step α) :=
  fun _ => .error h

theorem next {p : Step α} {f : α → Step β} (hp : OrdinaryStep p) (hf : ∀ a, OrdinaryStep (f a)) :
    OrdinaryStep (p >>= f) := fun w => by
  have hfirst := hp w
  rw [run_bind]
  rcases hrun : p.run.run w with ⟨outcome, w'⟩
  rw [hrun] at hfirst
  cases outcome with
  | ok a => exact hf a w'
  | error fault => exact .error (hfirst fault rfl)

theorem failed {fault : Fault} (h : fault.IsOrdinary) (f : α → Step β) :
    OrdinaryStep ((throw fault : Step α) >>= f) := fun _ => .error h

theorem collect {f : α → Step β} (hf : ∀ a, OrdinaryStep (f a)) (as : List α) :
    OrdinaryStep (as.mapM f) := by
  induction as with
  | nil => exact ok _
  | cons a as ih =>
    rw [List.mapM_cons]
    exact next (hf a) fun b => next ih fun bs => ok _

end OrdinaryStep

theorem ordinary_results (total documents : Value) (metadata : Fields) :
    Ordinary (RawResults.check total documents metadata).toExcept :=
  Checked.GoesOn.ordinary ((((Check.goesOn_int total).inside _).map _).seq
    ((Check.goesOn_list (Check.goesOn_dict fun _ => .ok _) documents).inside _))

theorem ordinary_document (id : String) (fields : List (Value × Value)) (score : Option Float) :
    Ordinary (Document.check id fields score).toExcept :=
  Checked.GoesOn.ordinary ((((Check.goesOn_dict fun _ => .ok _) _).inside _).map _)

theorem ordinary_scoreOf (v : Value) : Ordinary (scoreOf v) := by
  unfold scoreOf
  split
  · exact .ok _
  · exact .map (Value.ordinary_toFloat _)

theorem Failure.isOrdinary (failure : Failure) : failure.toFault.IsOrdinary := by
  cases failure <;> rfl

namespace Solr

theorem ordinary_resultsOf (answer : List (Value × Value)) : Ordinary (resultsOf answer) :=
  .bind (Value.ordinary_getD _ _ _) fun _ => .bind (Value.ordinary_getD _ _ _) fun _ =>
    .bind (Value.ordinary_getD _ _ _) fun _ => ordinary_results _ _ _

theorem ordinary_totalOf (answer : List (Value × Value)) : Ordinary (totalOf answer) :=
  .bind (Value.ordinary_getD _ _ _) fun v => v.ordinary_toInt

theorem ordinary_documentOf (v : Value) : Ordinary (documentOf v) := by
  unfold documentOf
  split
  · exact .bind (ordinary_scoreOf _) fun _ => ordinary_document _ _ _
  · exact .error rfl

theorem ordinary_select (s : Solr) (r : Request) (body : Value) :
    OrdinaryStep (s.select r body) := by
  unfold select
  dsimp only
  split
  · exact .failed (by rfl) _
  · refine .next (.plain _) fun outcome => ?_
    split
    · exact .fail rfl
    · exact .fail (Failure.isOrdinary _)
    · exact .fail rfl
    · exact .checked (Value.ordinary_toEntries _)

end Solr

namespace OpenSearch

theorem ordinary_bodyOf (request : String) (outcome : Outcome) :
    Ordinary (bodyOf request outcome) := by
  unfold bodyOf
  split
  · exact .ok _
  · exact .error rfl

theorem ordinary_resultsOf (answer : Value) : Ordinary (resultsOf answer) :=
  .bind (Value.ordinary_getD _ _ _) fun _ => .bind (Value.ordinary_getD _ _ _) fun _ =>
    .bind (Value.ordinary_getD _ _ _) fun _ => .bind (Value.ordinary_getD _ _ _) fun _ =>
      .bind (Value.ordinary_members _) fun _ => .bind (Value.ordinary_getD _ _ _) fun _ =>
        ordinary_results _ _ _

theorem ordinary_documentOf (v : Value) : Ordinary (documentOf v) :=
  .bind (Value.ordinary_getD _ _ _) fun _ => .bind (Value.ordinary_getD _ _ _) fun _ =>
    .bind (Value.ordinary_getD _ _ _) fun _ => .bind (Value.ordinary_toEntries _) fun _ =>
      .bind (ordinary_scoreOf _) fun _ => ordinary_document _ _ _

theorem ordinary_searchBody (o : OpenSearch) (r : Request) : Ordinary (o.searchBody r) := by
  refine .bind (.mapM (fun column => ?_) _) fun _ => .ok _
  unfold sortColumn
  split
  split
  · exact .error rfl
  · exact .ok _

theorem ordinary_execute (o : OpenSearch) (r : Request) : OrdinaryStep (o.execute r) := by
  unfold execute
  dsimp only
  split
  · exact .failed (by rfl) _
  · refine .next (.checked (ordinary_searchBody o r)) fun body => ?_
    refine .next (.plain _) fun outcome => .next (.checked (ordinary_bodyOf _ _)) fun answer => ?_
    exact .checked (ordinary_resultsOf answer)

theorem ordinary_count (o : OpenSearch) (r : Request) : OrdinaryStep (o.count r) := by
  unfold count
  dsimp only
  split
  · exact .failed (by rfl) _
  · refine .next (.plain _) fun outcome => .next (.checked (ordinary_bodyOf _ _)) fun answer => ?_
    exact .next (.checked (Value.ordinary_getD _ _ _)) fun v => .checked v.ordinary_toInt

end OpenSearch

namespace Shelf

theorem ordinary_perform (s : Shelf) (step : String) (c : Call) :
    OrdinaryStep (s.perform step c) := by
  unfold perform
  refine .next (.plain _) fun _ => ?_
  split
  · exact .fail rfl
  · exact .ok _

theorem ordinary_hitOf (v : Value) : Ordinary (hitOf v) := by
  unfold hitOf
  split
  · split
    · exact .ok _
    · exact .map (ordinary_document _ _ _)
  · exact .error rfl

end Shelf

namespace Engine

variable (e : Engine) (r : Request)

theorem ordinary_hitOf (v : Value) : Ordinary (e.hitOf v) := by
  cases e with
  | solr s => exact .map (Solr.ordinary_documentOf v)
  | openSearch o => exact .map (OpenSearch.ordinary_documentOf v)
  | shelf s => exact Shelf.ordinary_hitOf v

theorem ordinary_searchNoted : OrdinaryStep (e.searchNoted r) := by
  refine .next (.plain _) fun _ => .next (.next (.plain _) fun _ => ?_) fun raw =>
    .collect (fun fields => .checked (e.ordinary_hitOf _)) _
  cases e with
  | solr s =>
    exact .next (s.ordinary_select r _) fun answer => .checked (Solr.ordinary_resultsOf answer)
  | openSearch o => exact o.ordinary_execute r
  | shelf s =>
    exact .next (s.ordinary_perform _ _) fun _ => .next (.checked (Value.ordinary_members _))
      fun documents => .checked (ordinary_results _ _ _)

theorem ordinary_countNoted : OrdinaryStep (e.countNoted r) := by
  refine .next (.plain _) fun _ => .next (.plain _) fun _ => ?_
  cases e with
  | solr s =>
    exact .next (s.ordinary_select r _) fun answer => .checked (Solr.ordinary_totalOf answer)
  | openSearch o => exact o.ordinary_count r
  | shelf s =>
    exact .next (s.ordinary_perform _ _) fun _ => .next (.checked (Value.ordinary_members _))
      fun documents => .ok _

end Engine

/-! ## Openings -/

theorem Solr.ordinary_opening (s : Solr) : Ordinary s.opening := by
  have hsecret (place : Nat) (v : Value) : Ordinary (secretBytes place v) := by
    unfold secretBytes
    split
    · exact .ok _
    · exact .ok _
    · exact .error rfl
  have hcredentials : Ordinary s.credentials? := by
    unfold credentials?
    split
    · exact .bind (hsecret _ _) fun _ => .bind (hsecret _ _) fun _ => .ok _
    · exact .ok _
  have hlimit : Ordinary (replyLimit s.timeout) := by
    unfold replyLimit
    split
    · exact .ok _
    · exact .error rfl
    · exact .ok _
  exact .bind hcredentials fun _ => .bind hlimit fun _ => .ok _

theorem Engine.ordinary_start (e : Engine) (w : World) : Ordinary (e.start.run w).1.1 := by
  cases e with
  | solr s =>
    have hstart : ((Engine.solr s).start.run w).1.1 = (s.start.run w).1.1 := rfl
    rw [hstart, Solr.run_start]
    have hopening := s.ordinary_opening
    cases hcall : s.opening with
    | error fault => exact .error (hopening fault hcall)
    | ok c =>
      dsimp only
      cases w.refusal? .http with
      | some failure => cases failure <;> exact .error rfl
      | none =>
        dsimp only
        rw [Solr.run_greet]
        cases (w.constructed .http c).outcome.accepted? with
        | error failure => cases failure <;> exact .error rfl
        | ok answer => exact .ok _
  | openSearch o =>
    have hstart : ((Engine.openSearch o).start.run w).1.1 = (o.start.run w).1.1 := rfl
    rw [hstart, OpenSearch.run_start]
    split
    · exact .error rfl
    · split
      · exact .error rfl
      · rw [OpenSearch.run_greet]
        unfold OpenSearch.welcome
        cases (w.constructed .openSearch o.opening).outcome.body? with
        | error failure => exact .error rfl
        | ok answer =>
          dsimp only
          cases OpenSearch.clusterOf answer with
          | error fault => exact .error rfl
          | ok cluster => exact .ok _
  | shelf s => exact s.ordinary_perform _ _ w

theorem EngineKind.ordinary_make (kind : EngineKind) (args : List (Value × Value)) :
    OrdinaryStep (kind.make args) := by
  cases kind with
  | solr =>
    refine .next (.checked ?_) fun _ => .ok _
    unfold Solr.ofArguments
    dsimp only
    split
    · exact .error rfl
    · refine .bind ?_ fun _ => .ok _
      unfold Solr.addressOf
      split
      · exact .ok _
      · exact .error rfl
      · exact .error rfl
  | openSearch =>
    refine .next (.checked ?_) fun _ => .ok _
    unfold OpenSearch.ofArguments
    dsimp only
    split
    · exact .error rfl
    · exact .ok _
  | shelf =>
    refine .next ?_ fun _ => .ok _
    unfold Shelf.ofArguments
    dsimp only
    split
    · exact .failed (by rfl) _
    · exact .next (.plain _) fun _ => .next (.checked (Value.ordinary_members _)) fun _ => .ok _

/-- An engine that cannot be opened fails in the ordinary way. -/
theorem Connection.ordinary_opening (settings : SearchSettings)
    (kinds : List (String × EngineKind)) : OrdinaryStep (opening settings kinds) := by
  unfold opening
  dsimp only
  split
  · exact .failed (by rfl) _
  · split
    · exact .failed (by rfl) _
    · refine .next (.checked ?_) fun kind => .next (kind.ordinary_make _) fun made => ?_
      · unfold Registry.kindOf
        split
        · exact .ok _
        · exact .error rfl
      · intro w
        have hstart := made.ordinary_start w
        rcases hrun : made.start.run w with ⟨⟨outcome, e⟩, w'⟩
        rw [hrun] at hstart
        rw [run_bind_plain hrun]
        exact (OrdinaryStep.checked hstart).next
          (fun _ => .next (.plain _) fun _ => .next (.plain _) fun _ => .ok _) w'

/-! ## Searches -/

theorem Columns.ordinary_ofValue (v : Value) : Ordinary (Columns.ofValue v) := by
  have hdirection (word : List Char) : Ordinary (directionOfWord word) := by
    unfold directionOfWord
    dsimp only
    split
    · exact .ok _
    · split
      · exact .ok _
      · exact .error rfl
  have hcolumn (part : List Char) : Ordinary (readColumn part) := by
    unfold readColumn
    dsimp only
    split
    · exact .map (hdirection _)
    · exact .ok _
  unfold Columns.ofValue
  split
  · exact .ok _
  · split
    · exact .bind (.mapM hcolumn _) fun _ => .ok _
    · split
      · split
        · exact .error rfl
        · exact .ok _
      · refine .bind (Value.ordinary_members _) fun names => ?_
        split
        · exact .error rfl
        · exact .ok _

theorem Builder.ordinary_build (b : Builder) : Ordinary b.build := by
  refine Checked.GoesOn.ordinary ?_
  unfold check
  refine .seq (.seq (.seq (.seq (.fmap _ ?_) ?_) ?_) ?_) ?_
  · exact (Check.goesOn_bound _).inside _
  · exact (Check.goesOn_bound _).inside _
  · exact (Check.goesOn_bool _).inside _
  · exact (Check.goesOn_bool _).inside _
  · exact (Check.goesOn_optional Check.goesOn_text _).inside _

theorem Page.ordinary_window? (limit offset : Value) : Ordinary (window? limit offset) := by
  have hnumber (v : Value) : Ordinary (number v) := by
    unfold number intOfText
    split
    · exact .ok _
    · split
      · exact .ok _
      · exact .error rfl
      · exact .error rfl
  unfold window?
  dsimp only
  split
  · exact .ok _
  · exact .bind (hnumber _) fun _ => .bind (hnumber _) fun _ => .ok _

theorem Spec.ordinary_prepare (mode : FieldMode) (spec : Spec) (r : Request) :
    Ordinary (spec.prepare mode r).1 := by
  have hwindow := Page.ordinary_window? spec.limit.toValue spec.offset.toValue
  unfold prepare
  cases hw : Page.window? spec.limit.toValue spec.offset.toValue with
  | error fault => exact .error (hwindow fault hw)
  | ok window =>
    cases hc : Condition.compileWhere mode spec.condition with
    | error fault =>
      cases hcondition : spec.condition with
      | none =>
        rw [hcondition] at hc
        cases hc
      | some c =>
        rw [hcondition] at hc
        cases Condition.fault_of_compile c hc
        exact .error rfl
    | ok query => exact .ok _

namespace CommandLine

theorem ordinary_answer (o : SearchOptions) (e : Engine) (p : Prepared) (r : Request) :
    OrdinaryStep (answer o e p r) := by
  unfold answer
  split
  · exact .next (e.ordinary_countNoted r) fun _ => .next (.plain _) fun _ => .ok _
  · exact .next (e.ordinary_searchNoted r) fun _ => .next (.plain _) fun _ =>
      .checked (Json.ordinary_writeAt _ _ _)

theorem SearchOptions.ordinary_spec {room : Nat} {o : SearchOptions}
    (hnode : Ordinary (o.node room)) : Ordinary (o.spec room) :=
  .bind (.bind hnode fun _ => .bind (Columns.ordinary_ofValue _) fun _ => .ok _)
    fun b => b.ordinary_build

theorem ordinary_printable (around : Surroundings) (text : String) :
    Ordinary (printable around text) := by
  unfold printable
  split
  · exact .ok _
  · exact .error rfl

/-- A search whose condition could be read fails in the ordinary way. -/
theorem ordinary_search {around : Surroundings} {o : SearchOptions}
    (hnode : Ordinary (o.node around.room)) (s : Settings) (w : World) :
    Ordinary ((search around o s).run w).1 := by
  have hspec := SearchOptions.ordinary_spec hnode
  rw [run_search]
  cases h : o.spec around.room with
  | error fault => exact .error (hspec fault h)
  | ok spec =>
    have hopening := Connection.ordinary_opening s.search standardKinds (introduced w)
    dsimp only
    rcases hopened : (Connection.opening s.search standardKinds).run.run (introduced w)
      with ⟨outcome, w'⟩
    rw [hopened] at hopening
    cases outcome with
    | error fault => exact .error (hopening fault rfl)
    | ok e =>
      have hprepare := spec.ordinary_prepare (.ofGrouping s.groupFields) o.blank
      dsimp only
      rcases hprepared : spec.prepare (.ofGrouping s.groupFields) o.blank with ⟨outcome, r⟩
      rw [hprepared] at hprepare
      cases outcome with
      | error fault => exact .error (hprepare fault rfl)
      | ok prepared =>
        exact .map (.bind (ordinary_answer o e prepared r w') (ordinary_printable around))

/-- A search whose condition cannot be read fails with that, and nothing is opened. -/
theorem search_unread {around : Surroundings} {o : SearchOptions} {fault : Fault}
    (hnode : o.node around.room = .error fault) (s : Settings) (w : World) :
    (search around o s).run w = (.error fault, introduced w) := by
  have hspec : o.spec around.room = .error fault := by
    unfold SearchOptions.spec SearchOptions.builder
    rw [hnode]
    rfl
  rw [run_search, hspec]

theorem ordinary_compile {room : Nat} {o : CompileOptions}
    (hread : Ordinary (Json.read room o.condition)) (groupFields : Bool) :
    Ordinary (compileText room o groupFields) := by
  rw [compileText_read]
  refine .bind hread fun v fault h => ?_
  cases Condition.fault_of_compile _ h
  rfl

end CommandLine

end SearchQuery
