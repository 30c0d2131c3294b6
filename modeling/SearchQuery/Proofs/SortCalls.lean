-- Sort columns call by call. Adding a text to another comes to writing both with a comma in
-- between. After any calls the columns are those mentioned since the last call that replaced them:
-- each once, where it was mentioned first, in the direction that it was given last.
import SearchQuery.Proofs.BuilderRuns
import SearchQuery.Proofs.KeyedFindings
import SearchQuery.Proofs.OrderTexts
import SearchQuery.Value.Convert

namespace SearchQuery

namespace Columns

/-! ## Texts with a comma in between -/

theorem ofText_joined (s t : String) :
    ofText (s ++ "," ++ t) = do
      let columns ← ofText s
      let more ← ofText t
      return Entries.update columns more := by
  simp only [ofText, orderParts_joined, List.mapM_append]
  cases (orderParts s).mapM readColumn with
  | error fault => rfl
  | ok readings =>
    cases (orderParts t).mapM readColumn with
    | error fault => rfl
    | ok more => exact congrArg Except.ok (Entries.update_ofList readings more).symm

/-! ## What a value mentions -/

/-- What a value mentions of sort columns, in order, each with the direction that it gives. -/
inductive Mentions : Value → List (String × Direction) → Prop
  | nothing {v : Value} (empty : v.isTruthy = false) : Mentions v []
  | parts {v : Value} {s : String} {parts : List (List Char)}
      {readings : List (String × Direction)} (isText : v.text? = some s) (cut : HasParts s parts)
      (read : List.Forall₂ ReadAs parts readings) : Mentions v readings
  | pairs {entries : List (Value × Value)} (short : ∀ e ∈ entries, e.1.isOverlong = false) :
      Mentions (.map entries) (entries.map fun (k, d) => (k.display, directionOf d))
  | members {v : Value} {items : List Value} (noText : v.text? = none)
      (noMap : ∀ entries, v ≠ .map entries) (all : v.members = .ok items)
      (short : ∀ item ∈ items, item.isOverlong = false) :
      Mentions v (items.map fun item => (item.display, .ascending))

/-- No columns can be made of the value: a part of its text is misspelt, a number in one of its
names is too long to be written, or it is something that has no members. -/
inductive Refuses : Value → Prop
  | misspelt {v : Value} {s : String} {parts : List (List Char)} {part word : List Char}
      (isText : v.text? = some s) (cut : HasParts s parts) (among : part ∈ parts)
      (spelt : Misspelt part word) : Refuses v
  | overlong {v item : Value} {items : List Value} (noText : v.text? = none)
      (all : v.members = .ok items) (among : item ∈ items) (long : item.isOverlong = true) :
      Refuses v
  | single {v : Value} {fault : Fault} (nonempty : v.isTruthy = true)
      (all : v.members = .error fault) : Refuses v

theorem ofText_of_readings {s : String} {readings : List (String × Direction)}
    (h : List.Forall₂ ReadAs (orderParts s) readings) :
    ofText s = .ok (Entries.ofList readings) := by
  have hread : List.Forall₂ (fun part reading => readColumn part = .ok reading) (orderParts s)
      readings :=
    ((List.forall₂_and_left _ _).mpr ⟨fun _ => trimmed_of_mem_orderParts, h⟩).imp
      fun part reading h => readColumn_of_readAs h.1 h.2
  rw [ofText, mapM_of_forall₂ hread]
  rfl

theorem readings_or_misspelt (s : String) :
    (∃ readings, List.Forall₂ ReadAs (orderParts s) readings) ∨
      ∃ part ∈ orderParts s, ∃ word, Misspelt part word := by
  obtain ⟨readings, hreadings, -⟩ | ⟨before, part, after, fault, hparts, -, hpart, -⟩ :=
    mapM_cases readColumn (orderParts s)
  · have hread : List.Forall₂ ReadAs (orderParts s) readings :=
      ((List.forall₂_and_left _ _).mpr ⟨fun _ => trimmed_of_mem_orderParts, hreadings⟩).imp
        fun part reading h => (readColumn_ok h.1 h.2).1
    exact Or.inl ⟨readings, hread⟩
  · have hmem : part ∈ orderParts s := by simp [hparts]
    obtain ⟨word, hword, -⟩ := readColumn_error (trimmed_of_mem_orderParts hmem) hpart
    exact Or.inr ⟨part, hmem, word, hword⟩

theorem ofValue_of_members {v : Value} {items : List Value} (noText : v.text? = none)
    (noMap : ∀ entries, v ≠ .map entries) (all : v.members = .ok items) :
    ofValue v =
      if Value.anyOverlong items then .error (.tooManyDigits none)
      else .ok (ascending (items.map Value.display)) := by
  unfold ofValue
  cases htruthy : v.isTruthy with
  | false =>
    have hnone : items = [] := by
      cases v <;> simp_all [Value.isTruthy, Value.members, Value.text?]
    rw [hnone]
    rfl
  | true =>
    rw [noText, Bool.not_true, if_neg Bool.false_ne_true]
    dsimp only
    split
    · next entries => exact absurd rfl (noMap entries)
    · rw [all]
      dsimp only [bind, Except.bind]
      split <;> rfl

theorem Mentions.ofValue {v : Value} {mentions : List (String × Direction)}
    (h : Mentions v mentions) : Columns.ofValue v = .ok (Entries.ofList mentions) := by
  cases h with
  | nothing empty =>
    unfold Columns.ofValue
    rw [if_pos (by simpa using empty)]
    rfl
  | parts isText cut read =>
    obtain rfl := cut.eq_orderParts
    rw [ofValue_of_text isText, ofText_of_readings read]
  | @pairs entries short =>
    have hkeys : Value.anyOverlong (Entries.keys entries) = false := by
      simpa [Value.anyOverlong_eq_any, Entries.keys] using short
    cases entries with
    | nil => rfl
    | cons e entries => simp [Columns.ofValue, Value.isTruthy, Value.text?, hkeys]
  | @members _ items noText noMap all short =>
    have hnone : Value.anyOverlong items = false := by
      simpa [Value.anyOverlong_eq_any] using short
    rw [ofValue_of_members noText noMap all, hnone, if_neg Bool.false_ne_true]
    simp [ascending, Function.comp_def]

theorem Refuses.ofValue {v : Value} (h : Refuses v) :
    ∃ fault, Columns.ofValue v = .error fault := by
  cases h with
  | @misspelt s _ part word isText cut among spelt =>
    obtain rfl := cut.eq_orderParts
    rw [ofValue_of_text isText, ofText]
    obtain ⟨readings, hreadings, -⟩ | ⟨-, -, -, fault, -, -, -, hfirst⟩ :=
      mapM_cases readColumn (orderParts s)
    · have hread : ∀ part ∈ orderParts s, ∃ reading, readColumn part = .ok reading :=
        forall_left hreadings fun _ reading h => ⟨reading, h⟩
      obtain ⟨reading, hreading⟩ := hread part among
      exact absurd spelt ((readColumn_ok (trimmed_of_mem_orderParts among) hreading).2 word)
    · rw [hfirst]
      exact ⟨fault, rfl⟩
  | @overlong item items noText all among long =>
    have hany : Value.anyOverlong items = true := by
      rw [Value.anyOverlong_eq_any, List.any_eq_true]
      exact ⟨item, among, long⟩
    by_cases hmap : ∃ entries, v = .map entries
    · obtain ⟨entries, rfl⟩ := hmap
      obtain rfl : Entries.keys entries = items := Except.ok.inj all
      cases entries with
      | nil => cases among
      | cons e entries => exact ⟨.tooManyDigits none, by
          simp [Columns.ofValue, Value.isTruthy, Value.text?, hany]⟩
    · rw [ofValue_of_members noText (fun e he => hmap ⟨e, he⟩) all, if_pos hany]
      exact ⟨_, rfl⟩
  | single nonempty all =>
    cases v with
    | null => cases nonempty
    | bool | int | float | moment =>
      exact ⟨_, by simp [Columns.ofValue, Value.text?, nonempty, all, bind, Except.bind]; rfl⟩
    | _ => cases all

theorem short_or_long (items : List Value) :
    (∀ item ∈ items, item.isOverlong = false) ∨ ∃ item ∈ items, item.isOverlong = true := by
  cases hany : items.any Value.isOverlong with
  | false => exact Or.inl (by simpa using hany)
  | true => exact Or.inr (List.any_eq_true.mp hany)

theorem mentions_or_refuses (v : Value) : (∃ mentions, Mentions v mentions) ∨ Refuses v := by
  cases hempty : v.isTruthy with
  | false => exact Or.inl ⟨[], .nothing hempty⟩
  | true =>
    cases htext : v.text? with
    | some s =>
      obtain ⟨readings, hread⟩ | ⟨part, hmem, word, hword⟩ := readings_or_misspelt s
      · exact Or.inl ⟨readings, .parts htext (hasParts_orderParts s) hread⟩
      · exact Or.inr (.misspelt htext (hasParts_orderParts s) hmem hword)
    | none =>
      by_cases hmap : ∃ entries, v = .map entries
      · obtain ⟨entries, rfl⟩ := hmap
        rcases short_or_long (Entries.keys entries) with hshort | ⟨key, hkey, hlong⟩
        · refine Or.inl ⟨_, .pairs fun e he => hshort e.1 (List.mem_map_of_mem he)⟩
        · exact Or.inr (.overlong rfl rfl hkey hlong)
      · cases hall : v.members with
        | ok items =>
          rcases short_or_long items with hshort | ⟨item, hitem, hlong⟩
          · exact Or.inl ⟨_, .members htext (fun e he => hmap ⟨e, he⟩) hall hshort⟩
          · exact Or.inr (.overlong htext hall hitem hlong)
        | error fault => exact Or.inr (.single hempty hall)

/-! ## Columns that were mentioned -/

/-- The columns that were mentioned: each once, where it was mentioned first, in the direction that
it was given last. -/
structure Gathered (mentions : List (String × Direction)) (columns : Columns) : Prop where
  once : (Entries.keys columns).Nodup
  order : Entries.keys columns = (Entries.keys mentions).eraseDups
  last (name : String) : columns.lookup name = Entries.last? name mentions

theorem gathered_ofList (mentions : List (String × Direction)) :
    Gathered mentions (Entries.ofList mentions) where
  once := (Entries.distinct_ofList mentions).imp fun hab => ne_of_beq_false hab
  order := Entries.keys_ofList ⟨fun _ => beq_self_eq_true _, fun _ => BEq.symm, fun _ => BEq.trans⟩
    (p := fun _ => True) fun _ _ => trivial
  last name := (Entries.certain_of_lawful name).lookup_ofList mentions

/-- Columns as a value: a map from their names to their directions. -/
def toValue (columns : Columns) : Value :=
  .map (columns.map fun (name, d) => (.text name, .direction d))

/-- Columns that are made of columns again stay as they are. -/
theorem Gathered.ofValue_toValue {mentions : List (String × Direction)} {columns : Columns}
    (h : Gathered mentions columns) : Columns.ofValue columns.toValue = .ok columns := by
  have hdistinct : Entries.Distinct columns := h.once.imp fun hab => beq_false_of_ne hab
  have hread : (columns.map fun (name, d) => (Value.text name, Value.direction d)).map
      (fun (k, d) => (k.display, directionOf d)) = columns := by
    simp [Value.display_text, directionOf, Function.comp_def]
  have hshort : ∀ e ∈ columns.map fun (name, d) => (Value.text name, Value.direction d),
      e.1.isOverlong = false := by
    intro e he
    obtain ⟨_, -, rfl⟩ := List.mem_map.mp he
    rfl
  calc
    Columns.ofValue columns.toValue = _ := (Mentions.pairs hshort).ofValue
    _ = .ok columns := by rw [hread, Entries.ofList_of_distinct hdistinct]

end Columns

namespace Builder

/-! ## Calls about sort columns -/

/-- A call about sort columns. -/
inductive SortCall where
  | replace (v : Value)
  | append (v : Value)

namespace SortCall

/-- As a call on a builder. -/
def call : SortCall → Call
  | replace v => .orderBy v
  | append v => .addOrderBy v

/-- What names the columns. -/
def value : SortCall → Value
  | replace v => v
  | append v => v

end SortCall

/-- What a call has come to. -/
inductive Sorting where
  | replaced (mentions : List (String × Direction))
  | appended (mentions : List (String × Direction))
  /-- The call failed. -/
  | refused

namespace Sorting

def mentions : Sorting → List (String × Direction)
  | replaced mentions => mentions
  | appended mentions => mentions
  | refused => []

/-- Whether what was mentioned before no longer counts. -/
def replaces : Sorting → Bool
  | replaced _ => true
  | _ => false

/-- A history from the last call on that replaced the columns. -/
def sinceReplaced : List Sorting → List Sorting
  | [] => []
  | x :: rest => if rest.any replaces then sinceReplaced rest else x :: rest

/-- All mentions since the columns were replaced. -/
def mentioned (history : List Sorting) : List (String × Direction) :=
  (sinceReplaced history).flatMap mentions

theorem sinceReplaced_append (history : List Sorting) (x : Sorting) :
    sinceReplaced (history ++ [x]) = if x.replaces then [x] else sinceReplaced history ++ [x] := by
  induction history with
  | nil => simp [sinceReplaced]
  | cons y history ih =>
    rw [List.cons_append, sinceReplaced, ih, sinceReplaced, List.any_append]
    cases hx : x.replaces <;> cases history.any replaces <;> simp [hx]

theorem mentioned_append (history : List Sorting) (x : Sorting) :
    mentioned (history ++ [x]) =
      if x.replaces then x.mentions else mentioned history ++ x.mentions := by
  rw [mentioned, sinceReplaced_append]
  split
  · simp
  · simp [mentioned]

end Sorting

/-- What a call comes to: its value mentions columns, or none can be made of it. -/
inductive ComesTo : SortCall → Sorting → Prop
  | replaced {v : Value} {mentions : List (String × Direction)} (h : Columns.Mentions v mentions) :
      ComesTo (.replace v) (.replaced mentions)
  | appended {v : Value} {mentions : List (String × Direction)} (h : Columns.Mentions v mentions) :
      ComesTo (.append v) (.appended mentions)
  | refused {c : SortCall} (h : Columns.Refuses c.value) : ComesTo c .refused

theorem exists_comesTo (c : SortCall) : ∃ x, ComesTo c x := by
  obtain ⟨mentions, hmentions⟩ | hrefuses := Columns.mentions_or_refuses c.value
  · cases c with
    | replace v => exact ⟨_, .replaced hmentions⟩
    | append v => exact ⟨_, .appended hmentions⟩
  · exact ⟨_, .refused hrefuses⟩

/-! ## Runs of such calls -/

variable {past history : List Sorting}

theorem sort_step {c : SortCall} {x : Sorting} (h : ComesTo c x) {b : Builder}
    (hb : b.columns = Entries.ofList (Sorting.mentioned past)) :
    b.step c.call = { b with columns := Entries.ofList (Sorting.mentioned (past ++ [x])) } := by
  rw [Sorting.mentioned_append]
  cases h with
  | replaced h =>
    simp only [step, apply, SortCall.call, h.ofValue]
    rfl
  | appended h =>
    have hupdate := Entries.update_ofList (Sorting.mentioned past)
    simp only [step, apply, SortCall.call, h.ofValue, Except.map, hb, hupdate]
    rfl
  | refused h =>
    obtain ⟨fault, hfault⟩ := h.ofValue
    have hsame : b.step c.call = b := by
      cases c <;> simp only [step, apply, SortCall.call, SortCall.value] at hfault ⊢ <;>
        rw [hfault] <;> rfl
    simp [hsame, Sorting.replaces, Sorting.mentions, ← hb]

theorem sort_run {calls : List SortCall} (h : List.Forall₂ ComesTo calls history) {b : Builder}
    (hb : b.columns = Entries.ofList (Sorting.mentioned past)) :
    b.run (calls.map SortCall.call) =
      { b with columns := Entries.ofList (Sorting.mentioned (past ++ history)) } := by
  induction h generalizing b past with
  | nil => simp [run, ← hb]
  | @cons c x calls history hc _ ih =>
    rw [List.map_cons, run, List.foldl_cons, ← run, sort_step hc hb, ih rfl, List.append_assoc]
    rfl

/-- A text and a second one that is added to it come to what both come to at once. -/
theorem apply_joined {v u : Value} {s t : String} (hs : v.text? = some s) (ht : u.text? = some t)
    (b : Builder) :
    (b.apply (.orderBy v) >>= fun b => b.apply (.addOrderBy u)) =
      b.apply (.orderBy (.text (s ++ "," ++ t))) := by
  simp only [apply, Columns.ofValue_of_text hs, Columns.ofValue_of_text ht, Columns.ofValue_text,
    Columns.ofText_joined]
  cases Columns.ofText s with
  | error fault => rfl
  | ok columns => cases Columns.ofText t <;> rfl

/-- Adding sort columns to others is writing them in one text with a comma in between, and it fails
where that does. After any calls about sort columns the query can be built. Its columns are those
that were mentioned since the last call that replaced them: each once, where it was mentioned first,
in the direction that it was given last. Making columns of these columns changes nothing. -/
theorem a_column_stands_where_it_was_mentioned_first {v u : Value} {s t : String}
    (hs : v.text? = some s) (ht : u.text? = some t) (b : Builder) (calls : List SortCall) :
    (b.apply (.orderBy v) >>= fun b => b.apply (.addOrderBy u)) =
        b.apply (.orderBy (.text (s ++ "," ++ t))) ∧
      (∃ history, List.Forall₂ ComesTo calls history) ∧
      ∀ history, List.Forall₂ ComesTo calls history →
        ∃ spec, (run {} (calls.map SortCall.call)).build = .ok spec ∧
          Columns.Gathered (Sorting.mentioned history) spec.columns ∧
          Columns.ofValue spec.columns.toValue = .ok spec.columns := by
  refine ⟨apply_joined hs ht b, ?_, fun history hhistory => ?_⟩
  · induction calls with
    | nil => exact ⟨[], .nil⟩
    | cons c calls ih =>
      obtain ⟨x, hx⟩ := exists_comesTo c
      obtain ⟨history, hhistory⟩ := ih
      exact ⟨x :: history, .cons hx hhistory⟩
  · have hgathered := Columns.gathered_ofList (Sorting.mentioned history)
    have hrun : run {} (calls.map SortCall.call) =
        { columns := Entries.ofList (Sorting.mentioned ([] ++ history)) } := sort_run hhistory rfl
    rw [hrun]
    exact ⟨_, rfl, hgathered, hgathered.ofValue_toValue⟩

/-- The pages no longer count, and the year keeps its place before the title. -/
theorem the_year_comes_before_the_title_and_ascends :
    let year : Value := .text "year"
    let calls : List SortCall := [.append (.list [.text "pages"]),
      .replace (.map [(year, .text " DESC "), (.text "title", .null)]), .append (.tuple [year])]
    (apply {} (.orderBy (.text "year DESC")) >>= fun b => b.apply (.addOrderBy (.text "title"))) =
        apply {} (.orderBy (.text "year DESC,title")) ∧
      ∃ spec, (run {} (calls.map SortCall.call)).build = .ok spec ∧
        Entries.keys spec.columns = ["year", "title"] ∧
        spec.columns.lookup "year" = some .ascending := by
  intro year calls
  obtain ⟨hjoined, -, hbuilt⟩ := a_column_stands_where_it_was_mentioned_first
    (v := .text "year DESC") (u := .text "title") rfl rfl {} calls
  have hhistory : List.Forall₂ ComesTo calls _ :=
    .cons (.appended (.members rfl nofun rfl (by decide))) <|
      .cons (.replaced (.pairs (by decide))) <|
        .cons (.appended (.members rfl nofun rfl (by decide))) .nil
  obtain ⟨spec, hbuild, hgathered, -⟩ := hbuilt _ hhistory
  have hmentioned : Sorting.mentioned [.appended [("pages", .ascending)],
      .replaced [("year", .descending), ("title", .ascending)],
      .appended [("year", .ascending)]] =
      [("year", .descending), ("title", .ascending), ("year", .ascending)] := rfl
  have hdown : Columns.directionOf (.text " DESC ") = .descending := by decide
  have hup : Columns.directionOf .null = .ascending := rfl
  simp only [year, List.map_cons, List.map_nil, Value.display_text, hdown, hup,
    hmentioned] at hgathered
  refine ⟨hjoined, spec, hbuild, ?_, ?_⟩
  · rw [hgathered.order]
    decide
  · rw [hgathered.last]
    rfl

end Builder

end SearchQuery
