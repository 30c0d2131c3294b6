-- No map that settings come from names a key twice: not one that variables make up, nor one
-- from a file, from the caller, or from the files of directories.
import Mathlib.Data.List.Forall2
import Mathlib.Data.List.Nodup
import SearchQuery.Proofs.SoundReadings

namespace SearchQuery

open CommandLine (both_of_bind holds_after_steps)
open Entries (Certain Distinct)
open Value (Sound)

/-! ## Variables -/

namespace Variables

variable {room : Nat} {n : Naming}

theorem sound_decode? {s : String} {v : Value} (h : decode? room s = .ok (some v)) : Sound v := by
  unfold decode? at h
  split at h
  · next hread =>
    cases h
    exact Json.sound_read hread
  · cases h
  · cases h

theorem Naming.plainValue_ne_map (n : Naming) (s : String) (entries : List (Value × Value)) :
    n.plainValue s ≠ .map entries := by
  unfold plainValue
  split <;> simp

theorem sound_valueAt? {t : Option Target} {s : Option String} {v : Value}
    (h : valueAt? room n t s = .ok (some v)) : Sound v := by
  unfold valueAt? at h
  split at h
  · cases h
    exact .plain (by simp)
  · cases h
    exact .plain (n.plainValue_ne_map _)
  · split at h
    · cases h
      exact .plain (n.plainValue_ne_map _)
    · obtain ⟨found, hdecode, hend⟩ := both_of_bind h
      cases found with
      | some found =>
        cases hend
        exact sound_decode? hdecode
      | none =>
        dsimp only at hend
        split at hend <;> cases hend
        exact .plain (n.plainValue_ne_map _)

theorem sound_putAt {way : List String} {last : String} {v : Value}
    {entries : List (Value × Value)} (hv : Sound v) (h : Sound (.map entries)) :
    Sound (.map (putAt way last v entries)) := by
  induction way generalizing entries with
  | nil => exact h.put _ hv
  | cons name way ih =>
    unfold putAt
    split
    · next inner hinner => exact h.put _ (ih (h.lookup hinner))
    · exact h.put _ (ih .nil)
    · exact h

/-- Puts the value of a variable into a section, if it leads there. Nothing is left of the
section behind a value that cannot be decoded. -/
def putInside (room : Nat) (n : Naming) (field : String) (shape : Shape)
    (found : Option (List (Value × Value))) (one : String × Option String) :
    Except Fault (Option (List (Value × Value))) :=
  match found, way? n field one.1 with
  | some es, some (way, last) => do
    let v ← valueAt? room n (Target.follow? n { shape } (way ++ [last])) one.2
    return v.map fun v => putAt way last v es
  | found, _ => .ok found

theorem putInside_none {field : String} {shape : Shape} {vars : Given}
    {found : Option (List (Value × Value))}
    (h : vars.foldlM (putInside room n field shape) none = .ok found) : found = none := by
  refine holds_after_steps (p := (· = none)) (fun found one found' hfound hstep => ?_) rfl h
  subst hfound
  cases hstep
  rfl

/-- A variable that leads into a section has put its value there, others change nothing. -/
theorem putInside_cases {field : String} {shape : Shape} {one : String × Option String}
    {found : Option (List (Value × Value))} {next : List (Value × Value)}
    (h : putInside room n field shape found one = .ok (some next)) :
    (way? n field one.1 = none ∧ found = some next) ∨
      ∃ es way last v, found = some es ∧ way? n field one.1 = some (way, last) ∧
        valueAt? room n (Target.follow? n { shape } (way ++ [last])) one.2 = .ok (some v) ∧
        next = putAt way last v es := by
  unfold putInside at h
  split at h
  · next es way last hway =>
    obtain ⟨v, hvalue, hend⟩ := both_of_bind h
    obtain ⟨v, rfl, rfl⟩ := Option.map_eq_some_iff.mp (Except.ok.inj hend)
    exact Or.inr ⟨es, way, last, v, rfl, hway, hvalue, rfl⟩
  · next hnone =>
    cases h
    refine Or.inl ⟨Option.eq_none_iff_forall_ne_some.mpr fun ⟨way, last⟩ hway => ?_, rfl⟩
    exact hnone next way last rfl hway

/-- What holds of the entries that are there, and still does when a variable has put its value
to them, holds of all that the variables put there. -/
theorem holds_inside {field : String} {shape : Shape} {vars : Given}
    {start es : List (Value × Value)} {p : List (Value × Value) → Prop}
    (hput : ∀ one ∈ vars, ∀ way last v es, way? n field one.1 = some (way, last) →
      valueAt? room n (Target.follow? n { shape } (way ++ [last])) one.2 = .ok (some v) →
      p es → p (putAt way last v es))
    (hstart : p start)
    (h : vars.foldlM (putInside room n field shape) (some start) = .ok (some es)) : p es := by
  induction vars generalizing start with
  | nil =>
    cases h
    exact hstart
  | cons one vars ih =>
    rw [List.forall_mem_cons] at hput
    rw [List.foldlM_cons] at h
    obtain ⟨found, hstep, hrest⟩ := both_of_bind h
    cases found with
    | none => cases putInside_none hrest
    | some next =>
      refine ih hput.2 ?_ hrest
      obtain ⟨-, hsame⟩ | ⟨es, way, last, v, hes, hway, hvalue, rfl⟩ := putInside_cases hstep
      · cases hsame
        exact hstart
      · cases hes
        exact hput.1 way last v _ hway hvalue hstart

theorem inside?_eq (room : Nat) (n : Naming) (vars : Given) (field : String) (shape : Shape) :
    inside? room n vars field shape = vars.foldlM (putInside room n field shape) (some []) := by
  unfold inside?
  congr 1
  funext found ⟨name, value⟩
  unfold putInside
  cases found with
  | none => rfl
  | some es =>
    dsimp only
    cases way? n field name <;> rfl

theorem sound_inside? {vars : Given} {field : String} {shape : Shape}
    {entries : List (Value × Value)} (h : inside? room n vars field shape = .ok (some entries)) :
    Sound (.map entries) :=
  holds_inside (p := fun es => Sound (.map es))
    (fun _ _ _ _ _ _ _ hvalue hes => sound_putAt (sound_valueAt? hvalue) hes) .nil
    (inside?_eq room n vars field shape ▸ h)

theorem sound_settled {shape : Shape} {entries : List (Value × Value)}
    (h : Sound (.map entries)) : Sound (settled n shape entries) := by
  unfold settled renamed
  split
  · exact h
  · split
    · refine .ofList fun e he => ?_
      obtain ⟨⟨k, v⟩, hmem, rfl⟩ := List.mem_map.mp he
      have hv := h.inner _ hmem
      dsimp only
      split
      · split <;> exact hv
      · exact hv
    · exact h

theorem sound_section? {vars : Given} {field : String} {shape : Shape} {v : Value}
    (h : section? room n vars field shape = .ok (some (some v))) : Sound v := by
  unfold section? at h
  split at h
  · next value =>
    rw [Except.ok.injEq, Option.some.injEq, Option.map_eq_some_iff] at h
    obtain ⟨s, -, rfl⟩ := h
    exact .plain (n.plainValue_ne_map s)
  · obtain ⟨found, hinside, hend⟩ := both_of_bind h
    cases found with
    | none => cases hend
    | some entries =>
      dsimp only [Option.map_some] at hend
      split at hend <;> cases hend
      exact sound_settled (sound_inside? hinside)
  · split at h
    · cases h
      exact .plain (by simp)
    · obtain ⟨found, hdecode, hend⟩ := both_of_bind h
      split at hend
      · cases hend
      · cases hend
      · obtain ⟨inner, hinside, hend⟩ := both_of_bind hend
        cases inner with
        | none => cases hend
        | some entries =>
          cases hend
          have hwhole := sound_decode? hdecode
          exact sound_settled (sound_layEntries hwhole (sound_inside? hinside).inner)
      · cases hend
        exact sound_decode? hdecode

/-! What is found for the sections, one after the other, is in their order. -/

section

variable {α : Type} {rows : List (String × α)} {found : List (Option (Value × Value))}
  {find : String × α → Except Fault (Option (Value × Value))}

theorem forall₂_of_mapM (h : rows.mapM find = .ok found) :
    List.Forall₂ (fun row r => find row = .ok r) rows found := by
  induction rows generalizing found with
  | nil =>
    cases h
    exact .nil
  | cons row rows ih =>
    rw [List.mapM_cons] at h
    obtain ⟨first, hfirst, hrest⟩ := both_of_bind h
    obtain ⟨more, hmore, hend⟩ := both_of_bind hrest
    cases hend
    exact .cons hfirst (ih hmore)

variable (hfound : List.Forall₂ (fun row r => find row = .ok r) rows found)
  (hnames : ∀ row e, find row = .ok (some e) → e.1 = .text row.1)
include hfound

theorem exists_row : ∀ e ∈ found.filterMap id, ∃ row ∈ rows, find row = .ok (some e) := by
  induction hfound with
  | nil => simp
  | cons hrow _ ih =>
    intro e he
    obtain ⟨r, hr, hid⟩ := List.mem_filterMap.mp he
    cases hid
    obtain rfl | hr := List.mem_cons.mp hr
    · exact ⟨_, List.mem_cons_self, hrow⟩
    · obtain ⟨row, hmem, hfind⟩ := ih e (List.mem_filterMap.mpr ⟨_, hr, rfl⟩)
      exact ⟨row, List.mem_cons_of_mem _ hmem, hfind⟩

theorem exists_found {row : String × α} (hrow : row ∈ rows) : ∃ r ∈ found, find row = .ok r := by
  induction hfound with
  | nil => cases hrow
  | cons hfirst _ ih =>
    obtain rfl | hrest := List.mem_cons.mp hrow
    · exact ⟨_, List.mem_cons_self, hfirst⟩
    · obtain ⟨r, hmem, hr⟩ := ih hrest
      exact ⟨r, List.mem_cons_of_mem _ hmem, hr⟩

include hnames

theorem keys_found :
    (Entries.keys (found.filterMap id)).Sublist (rows.map fun row => .text row.1) := by
  induction hfound with
  | nil => exact .slnil
  | @cons _ r _ _ hrow _ ih =>
    cases r with
    | none => exact ih.cons _
    | some e =>
      obtain ⟨k, v⟩ := e
      cases hnames _ _ hrow
      exact ih.cons_cons _

theorem distinct_found (hnodup : (Entries.keys rows).Nodup) : Distinct (found.filterMap id) := by
  refine List.Pairwise.sublist (keys_found hfound hnames) ?_
  rw [List.pairwise_map]
  refine (List.pairwise_map.mp hnodup).imp fun hne => ?_
  rw [Value.text_beq_text]
  exact beq_false_of_ne hne

/-- Under the name of a row stands what is found for it. -/
theorem lookup_found (hnodup : (Entries.keys rows).Nodup) {row : String × α} (hrow : row ∈ rows) :
    ∃ r, find row = .ok r ∧ (found.filterMap id).lookup (.text row.1) = r.map (·.2) := by
  obtain ⟨r, hr, hrow'⟩ := exists_found hfound hrow
  refine ⟨r, hrow', ?_⟩
  cases r with
  | none =>
    rw [Option.map_none, List.lookup_eq_none_iff]
    intro e he
    obtain ⟨row', hmem, hfind⟩ := exists_row hfound e he
    have hne : row.1 ≠ row'.1 := fun heq => by
      rw [List.inj_on_of_nodup_map hnodup hrow hmem heq, hfind] at hrow'
      cases hrow'
    rw [hnames row' e hfind, bne, Value.text_beq_text, beq_false_of_ne hne, Bool.not_false]
  | some e =>
    obtain ⟨k, v⟩ := e
    cases hnames row _ hrow'
    have hmem : (.text row.1, v) ∈ found.filterMap id := List.mem_filterMap.mpr ⟨_, hr, rfl⟩
    exact (Value.certain_text row.1).lookup_of_mem (distinct_found hfound hnames hnodup) hmem

theorem sound_found (hnodup : (Entries.keys rows).Nodup)
    (hsound : ∀ row e, find row = .ok (some e) → Sound e.2) :
    Sound (.map (found.filterMap id)) := by
  refine .map (distinct_found hfound hnames hnodup) fun e he => ?_
  obtain ⟨row, -, hrow⟩ := exists_row hfound e he
  exact hsound row e hrow

end

theorem sections_nodup : (Entries.keys sections).Nodup := by decide

/-- What the variables of one section give, under its name. -/
def fromVariables (room : Nat) (n : Naming) (source : String) (vars : Given)
    (row : String × Shape) : Except Fault (Option (Value × Value)) := do
  match ← section? room n vars row.1 row.2 with
  | none => .error (.undecodable row.1 source)
  | some v => .ok (v.map fun v => (.text row.1, v))

theorem fromVariables_eq_ok {source : String} {vars : Given} {row : String × Shape}
    {r : Option (Value × Value)} (h : fromVariables room n source vars row = .ok r) :
    ∃ v, section? room n vars row.1 row.2 = .ok (some v) ∧ r = v.map fun v => (.text row.1, v) := by
  obtain ⟨v, hv, hend⟩ := both_of_bind h
  cases v with
  | none => cases hend
  | some v =>
    cases hend
    exact ⟨v, hv, rfl⟩

/-- What variables give is sound, and each section holds what its variables give. -/
theorem sections_of_entries {source : String} {vars : Given} {es : List (Value × Value)}
    (h : entries room n source vars = .ok es) :
    Sound (.map es) ∧ ∀ row ∈ sections, section? room n vars row.1 row.2 =
      .ok (some (es.lookup (.text row.1))) := by
  obtain ⟨found, hall, hend⟩ := both_of_bind h
  cases hend
  have hfound :
      List.Forall₂ (fun row r => fromVariables room n source vars row = .ok r) sections found :=
    forall₂_of_mapM hall
  have hrow : ∀ row e, fromVariables room n source vars row = .ok (some e) →
      (section? room n vars row.1 row.2 = .ok (some (some e.2)) ∧ e.1 = .text row.1) := by
    intro row e he
    obtain ⟨v, hv, hend⟩ := fromVariables_eq_ok he
    obtain ⟨v, rfl, rfl⟩ := Option.map_eq_some_iff.mp hend.symm
    exact ⟨hv, rfl⟩
  have hnames := fun row e he => (hrow row e he).2
  refine ⟨sound_found hfound hnames sections_nodup fun row e he => ?_, fun row hmem => ?_⟩
  · exact sound_section? (hrow row e he).1
  · obtain ⟨r, hr, hlookup⟩ := lookup_found hfound hnames sections_nodup hmem
    obtain ⟨v, hv, rfl⟩ := fromVariables_eq_ok hr
    rw [hlookup, hv]
    cases v <;> rfl

/-- What the text for one section gives, under its name. -/
def fromText (room : Nat) (n : Naming) (source : String) (textOf : String → Option String)
    (row : String × Shape) : Except Fault (Option (Value × Value)) :=
  match textOf (n.nameOf row.1) with
  | none => .ok none
  | some s =>
    if !row.2.isComplex then .ok (some (.text row.1, .text s))
    else do
      match ← decode? room s with
      | none => .error (.undecodable row.1 source)
      | some .null => .ok none
      | some (.map es) => .ok (some (.text row.1, settled n row.2 es))
      | some v => .ok (some (.text row.1, v))

theorem fromText_eq_ok {source : String} {textOf : String → Option String} {row : String × Shape}
    {e : Value × Value} (h : fromText room n source textOf row = .ok (some e)) :
    e.1 = .text row.1 ∧ Sound e.2 := by
  unfold fromText at h
  split at h
  · cases h
  · split at h
    · cases h
      exact ⟨rfl, .plain (by simp)⟩
    · obtain ⟨found, hdecode, hend⟩ := both_of_bind h
      split at hend <;> cases hend
      · exact ⟨rfl, sound_settled (sound_decode? hdecode)⟩
      · exact ⟨rfl, sound_decode? hdecode⟩

theorem sound_entriesOfTexts {source : String} {textOf : String → Option String}
    {es : List (Value × Value)} (h : entriesOfTexts room n source textOf = .ok es) :
    Sound (.map es) := by
  obtain ⟨found, hall, hend⟩ := both_of_bind h
  cases hend
  have hfound :
      List.Forall₂ (fun row r => fromText room n source textOf row = .ok r) sections found :=
    forall₂_of_mapM hall
  exact sound_found hfound (fun row e he => (fromText_eq_ok he).1) sections_nodup
    fun row e he => (fromText_eq_ok he).2

end Variables

/-! ## The caller, the file and the directories -/

namespace Settings

theorem sound_givenBy {path text : String} {given : List (Value × Value)}
    (h : givenBy path text = .ok given) : Sound (.map given) := by
  obtain ⟨v, hread, hend⟩ := both_of_bind h
  have hv : Sound (v.orElse (.map [])) := by
    unfold Value.orElse
    split
    · exact Yaml.sound_read hread
    · exact .nil
  unfold argumentsOf at hend
  split at hend
  · next entries hentries =>
    split at hend <;> cases hend
    exact hentries ▸ hv
  · cases hend

/-- An entry can be meant for a setting. -/
def fits (exact : Bool) (field : String) (e : Value × Value) : Bool :=
  e.1.text?.any fun name => name == field || (!exact && Text.lower name == Text.lower field)

/-- The entries that are not about the sources themselves. -/
def counted (es : List (Value × Value)) : List (Value × Value) :=
  es.filter fun e => !e.1.text?.any fun name => Sources.naming? name || Sources.idle name

/-- The value of a setting: the one that is rightly spelled, else the first. -/
def spelled? (exact : Bool) (es : List (Value × Value)) (field : String) : Option Value :=
  let spellings := (counted es).filter (fits exact field)
  (spellings.find? (·.1.text? == some field) <|> spellings.head?).map (·.2)

/-- What is found for a setting, under its name. -/
def fromCaller (exact : Bool) (es : List (Value × Value)) (row : String × Variables.Shape) :
    Option (Value × Value) :=
  (spelled? exact es row.1).map fun v => (.text row.1, v)

theorem named_eq (exact : Bool) (es : List (Value × Value)) :
    named exact es =
      (Variables.sections.map (fromCaller exact es)).filterMap id ++
      (counted es).filter fun e => !(Entries.keys Variables.sections).any (fits exact · e) := by
  have hrow : ∀ row : String × Variables.Shape, fromCaller exact es row =
      (let spellings := (counted es).filter (fits exact row.1)
      (spellings.find? (·.1.text? == some row.1) <|> spellings.head?).map fun e =>
        (.text row.1, e.2)) := fun row => by
    rw [fromCaller, spelled?, Option.map_map]
    rfl
  rw [List.filterMap_map, Function.id_comp, funext hrow]
  show (Entries.keys Variables.sections).filterMap _ ++ _ = _
  rw [Entries.keys, List.filterMap_map]
  rfl

section

variable {exact : Bool} {given : List (Value × Value)}

theorem counted_sublist (es : List (Value × Value)) : (counted es).Sublist es := List.filter_sublist

theorem exists_of_spelled? {field : String} {v : Value} (h : spelled? exact given field = some v) :
    ∃ k, (k, v) ∈ given := by
  obtain ⟨⟨k, w⟩, he, rfl⟩ := Option.map_eq_some_iff.mp h
  have hmem : (k, w) ∈ (counted given).filter (fits exact field) := by
    rw [Option.orElse_eq_orElse, Option.orElse_eq_or, Option.or_eq_some_iff] at he
    obtain hfind | ⟨-, hhead⟩ := he
    · exact List.mem_of_find?_eq_some hfind
    · exact List.mem_of_head? hhead
  exact ⟨k, (counted_sublist given).subset (List.mem_filter.mp hmem).1⟩

theorem found_fromCaller :
    List.Forall₂ (fun row r => (.ok (fromCaller exact given row) : Except Fault _) = .ok r)
      Variables.sections (Variables.sections.map (fromCaller exact given)) := by
  rw [List.forall₂_map_right_iff, List.forall₂_same]
  exact fun row _ => rfl

theorem fromCaller_eq_some {row : String × Variables.Shape} {e : Value × Value}
    (h : (.ok (fromCaller exact given row) : Except Fault _) = .ok (some e)) :
    e.1 = .text row.1 ∧ ∃ k, (k, e.2) ∈ given := by
  obtain ⟨v, hv, rfl⟩ := Option.map_eq_some_iff.mp (Except.ok.inj h)
  exact ⟨rfl, exists_of_spelled? hv⟩

theorem sound_named (exact : Bool) (h : Sound (.map given)) :
    Sound (.map (named exact given)) := by
  have hfound : Sound (.map ((Variables.sections.map (fromCaller exact given)).filterMap id)) :=
    Variables.sound_found found_fromCaller (fun _ _ he => (fromCaller_eq_some he).1)
      Variables.sections_nodup fun _ e he => by
        obtain ⟨k, hmem⟩ := (fromCaller_eq_some he).2
        exact h.inner (k, e.2) hmem
  have hspare := (List.filter_sublist (p := fun e =>
    !(Entries.keys Variables.sections).any (fits exact · e))).trans (counted_sublist given)
  rw [named_eq]
  refine .map ?_ fun e he => ?_
  · rw [Distinct, Entries.keys, List.map_append, List.pairwise_append]
    refine ⟨hfound.distinct, List.Pairwise.sublist (hspare.map _) h.distinct, ?_⟩
    intro k hk l hl
    obtain ⟨e, he, rfl⟩ := List.mem_map.mp hk
    obtain ⟨row, hrow, hfind⟩ := Variables.exists_row found_fromCaller e he
    obtain ⟨other, hother, rfl⟩ := List.mem_map.mp hl
    have hfits : ¬ fits exact row.1 other := by
      have hnone := (List.mem_filter.mp hother).2
      rw [Bool.not_eq_true', List.any_eq_false] at hnone
      exact hnone row.1 (List.mem_map_of_mem hrow)
    rw [(fromCaller_eq_some hfind).1, Value.beq_of_text? rfl, beq_eq_false_iff_ne]
    exact fun hname => hfits (by simp [fits, hname])
  · obtain he | he := List.mem_append.mp he
    · exact hfound.inner e he
    · exact h.inner e (hspare.subset he)

end

theorem lookup_eq_find? (field : String) (es : List (Value × Value)) :
    es.lookup (.text field) = (es.find? (·.1.text? == some field)).map (·.2) := by
  induction es with
  | nil => rfl
  | cons e es ih =>
    rw [List.lookup_cons, List.find?_cons, Value.beq_of_text? rfl, ih]
    cases e.1.text? == some field <;> rfl

theorem plain_names : ∀ row ∈ Variables.sections,
    (Sources.naming? row.1 || Sources.idle row.1) = false := by decide

/-- What the caller gives under the name of a setting itself counts. -/
theorem lookup_named {exact : Bool} {given : List (Value × Value)}
    {row : String × Variables.Shape} (hrow : row ∈ Variables.sections) {v : Value}
    (h : given.lookup (.text row.1) = some v) :
    (named exact given).lookup (.text row.1) = some v := by
  have hright : ((counted given).filter (fits exact row.1)).find? (·.1.text? == some row.1) =
      given.find? (·.1.text? == some row.1) := by
    rw [counted, List.find?_filter, List.find?_filter]
    congr 1
    funext e
    cases hname : e.1.text? == some row.1 with
    | false => simp
    | true => simp [fits, eq_of_beq hname, plain_names row hrow]
  have hspelled : spelled? exact given row.1 = some v := by
    rw [lookup_eq_find?, Option.map_eq_some_iff] at h
    obtain ⟨e, he, rfl⟩ := h
    simp [spelled?, hright, he]
  obtain ⟨r, hr, hlookup⟩ := Variables.lookup_found found_fromCaller
    (fun _ _ he => (fromCaller_eq_some he).1) Variables.sections_nodup hrow
  cases hr
  rw [named_eq, List.lookup_append, hlookup, fromCaller, hspelled]
  rfl

theorem sound_fromDirectories {s : Surroundings} {sources : Sources} {es : List (Value × Value)}
    (h : fromDirectories s sources = .ok es) : Sound (.map es) := by
  obtain ⟨paths, -, hpaths⟩ := both_of_bind h
  obtain ⟨directories, -, hend⟩ := both_of_bind hpaths
  exact Variables.sound_entriesOfTexts hend

end Settings

end SearchQuery
