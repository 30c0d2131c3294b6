-- Settings that are loaded from a file. Each of them is what the first of its sources says:
-- the file, then the variables, then the files of directories, then the default. Sources that
-- say something about its neighbours take nothing from it.
import SearchQuery.Proofs.OwnVariables

namespace SearchQuery

open CommandLine (both_of_bind)
open Entries (Certain Distinct)
open Value (Sound)

/-! ## Checks that pass -/

namespace Check

variable {α β : Type}

/-- The outcome for what was told, or the default if nothing was. -/
def settle (check : Value → Checked α) (default : α) : Option Value → Checked α
  | some v => check v
  | none => .ok default

/-- A check on what stands at the end of a way into a value comes to something. -/
def ReadsAlong (check : Value → Checked α) (default : α) (way : List Value) (v : Value) (a : α) :
    Prop :=
  v.Opens way ∧ settle check default (v.along? way) = .ok a

variable {check : Value → Checked α} {default a : α} {name : String}
  {es : List (Value × Value)}

/-- The check passes for no map. -/
def Refuses (check : Value → Checked α) : Prop := ∀ entries a, check (.map entries) ≠ .ok a

theorem refuses_text : Refuses text := by simp [Refuses, text, Value.text?, Checked.flawed]

theorem refuses_bool : Refuses bool := by
  simp [Refuses, bool, readable?, Value.text?, Checked.flawed]

theorem refuses_optional : Refuses (optional text) := by
  simp [Refuses, optional, text, Value.text?, Checked.flawed, Checked.map]

theorem refuses_positive : Refuses positive := by
  simp [Refuses, positive, float, readable?, Value.text?, Checked.flawed, Checked.andThen]

theorem field_eq (name : String) (default : α) (check : Value → Checked α)
    (es : List (Value × Value)) :
    field name default check es =
      match es.lookup (.text name) with
      | some v => (check v).inside name
      | none => .ok default := by
  rw [Value.lookup_text]
  rfl

theorem settle_of_field (h : field name default check es = .ok a) :
    settle check default (es.lookup (.text name)) = .ok a := by
  rw [field_eq] at h
  cases hv : es.lookup (.text name) with
  | none => rwa [hv] at h
  | some v =>
    rw [hv] at h
    exact Checked.inside_eq_ok.mp h

theorem reads_field (h : field name default check es = .ok a) :
    ReadsAlong check default [.text name] (.map es) a :=
  ⟨fun _ _ => trivial, by rw [Value.along?_one]; exact settle_of_field h⟩

/-- What passes under a key passes further up, and so does the default of a whole section. -/
theorem ReadsAlong.under {key : Value} {way : List Value}
    (h : ∀ v, es.lookup key = some v → ReadsAlong check default way v a)
    (hdefault : es.lookup key = none → default = a) :
    ReadsAlong check default (key :: way) (.map es) a := by
  refine ⟨fun v hv => (h v hv).1, ?_⟩
  show settle check default ((es.lookup key).bind (Value.along? way)) = _
  cases hv : es.lookup key with
  | none => exact congrArg Checked.ok (hdefault hv)
  | some v => exact (h v hv).2

theorem ReadsAlong.plain {way : List Value} {v : Value} (h : ReadsAlong check default way v a)
    (hrefuses : Refuses check) : ∀ entries, v.along? way ≠ some (.map entries) := by
  intro entries hmap
  have hcheck := h.2
  rw [hmap] at hcheck
  exact hrefuses entries a hcheck

/-- What passes at the end of a way passes at the start of it. -/
theorem ReadsAlong.behind {way rest : List Value} {v w : Value} (hopens : v.Opens way)
    (hway : v.along? way = some w) (h : ReadsAlong check default rest w a) :
    ReadsAlong check default (way ++ rest) v a := by
  refine ⟨hopens.append fun x hx => ?_, ?_⟩
  · rw [hway] at hx
    cases hx
    exact h.1
  · rw [Value.along?_append, hway]
    exact h.2

/-- What passes in a section passes further up. -/
theorem reads_section {check' : Value → Checked β} {whole b : β} {way : List Value}
    (h : field name whole check' es = .ok b)
    (hinside : ∀ v, check' v = .ok b → ReadsAlong check default way v a)
    (hdefault : whole = b → default = a) :
    ReadsAlong check default (.text name :: way) (.map es) a := by
  have hsettled := settle_of_field h
  refine .under (fun v hv => hinside v ?_) fun hnone => hdefault ?_
  · rwa [hv] at hsettled
  · rw [hnone] at hsettled
    exact Checked.ok.inj hsettled

/-- The check of a section passes for maps only. -/
theorem exists_map_of_fields {further : List (Value × Value) → Checked β} {v : Value} {b : β}
    (h : (fields v).andThen further = .ok b) : ∃ es, v = .map es ∧ further es = .ok b := by
  unfold fields at h
  split at h
  · next es => exact ⟨es, rfl, h⟩
  · cases h

end Check

namespace Settings

/-! ## What a load goes by -/

/-- What the sources of settings say when they are loaded from a file. -/
structure Said (s : Surroundings) (path : String) where
  text : String
  /-- The entries of the file. -/
  given : List (Value × Value)
  sources : Sources
  /-- What the variables say. -/
  fromVariables : List (Value × Value)
  /-- What the files of directories say. -/
  fromDirectories : List (Value × Value)
  isFile : s.at? (Path.tidy path) = .file text
  isGiven : givenBy (Path.tidy path) text = .ok given
  areSources : Sources.ofEntries given = .ok sources
  areVariables : Variables.entries s.settingsRoom sources.naming "EnvSettingsSource"
    (Variables.given sources.naming (s.environment.map fun (name, value) => (name, some value))) =
      .ok fromVariables
  areDirectories : Settings.fromDirectories s sources = .ok fromDirectories

/-- There is no file of variables where one is looked for. -/
def NoVariableFiles (s : Surroundings) (path : String) : Prop :=
  ∀ text, s.at? (Path.tidy path) = .file text →
    ∀ file ∈ filesNamedBy (Path.tidy path) text, ∀ found, s.at? file ≠ .file found

/-- Without files of variables none are found, or it is a fault. -/
theorem envFiles_of_none {s : Surroundings} {sources : Sources}
    (h : ∀ file ∈ sources.files, ∀ found, s.at? file ≠ .file found) {file : Variables.Given}
    (hfile : (envFiles s sources).2 = .ok file) : file = [] := by
  let FindsNone (acc : List String × Except Fault Variables.Given) : Prop :=
    ∀ file, acc.2 = .ok file → file = []
  have hnone : FindsNone (envFiles s sources) := by
    unfold envFiles
    refine List.foldlRecOn (motive := FindsNone) _ _ (by rintro _ ⟨⟩; rfl) ?_
    rintro ⟨told, found⟩ hacc name hname
    cases found with
    | error fault =>
      rintro _ ⟨⟩
    | ok vars =>
      cases hplace : s.at? name with
      | file text => exact absurd hplace (h name hname text)
      | tooLong => rintro _ ⟨⟩
      | missing | directory => exact hacc
  exact hnone file hfile

theorem entries_nil (room : Nat) (n : Variables.Naming) (source : String) :
    Variables.entries room n source [] = .ok [] := rfl

theorem exists_of_merge {s : Surroundings} {sources : Sources} {given : List (Value × Value)}
    {st : Settings} (h : merge s sources given [] = .ok st) :
    ∃ fromVariables directories,
      Variables.entries s.settingsRoom sources.naming "EnvSettingsSource"
        (Variables.given sources.naming (s.environment.map fun (name, value) =>
          (name, some value))) = .ok fromVariables ∧
      fromDirectories s sources = .ok directories ∧
      ofEntries s.settingsRoom (Variables.layEntries directories (Variables.layEntries []
        (Variables.layEntries fromVariables (named sources.naming.exact given)))) = .ok st := by
  unfold merge at h
  split at h
  · cases h
  · obtain ⟨fromVariables, hvariables, h⟩ := both_of_bind h
    obtain ⟨fromFile, hfile, h⟩ := both_of_bind h
    obtain ⟨directories, hdirectories, h⟩ := both_of_bind h
    rw [entries_nil] at hfile
    cases hfile
    exact ⟨fromVariables, directories, hvariables, hdirectories, Checked.toExcept_eq_ok.mp h⟩

namespace Said

variable {s : Surroundings} {path : String}

/-- The entries of the file, under the names of the settings. -/
def fromFile (said : Said s path) : List (Value × Value) :=
  named said.sources.naming.exact said.given

/-- The variable that is compared by a name: the last one that counts. -/
def held? (said : Said s path) (name : String) : Option String :=
  Variables.inSurroundings? said.sources.naming s name

/-- What is said first about the place at the end of a way. -/
def first? (said : Said s path) (way : List Value) : Option Value :=
  ((Value.map said.fromFile).along? way).or
    (((Value.map said.fromVariables).along? way).or
      ((Value.map said.fromDirectories).along? way))

/-- What the file and the variables say together. -/
def middle (said : Said s path) : List (Value × Value) :=
  Variables.layEntries said.fromVariables said.fromFile

/-- The same over what the files of variables say, which are not there. -/
def upper (said : Said s path) : List (Value × Value) := Variables.layEntries [] said.middle

/-- All that is said, the file over the variables over the directories. -/
def together (said : Said s path) : List (Value × Value) :=
  Variables.layEntries said.fromDirectories said.upper

variable (said : Said s path)

theorem sound_fromFile : Sound (.map said.fromFile) :=
  sound_named _ (sound_givenBy said.isGiven)

theorem sound_fromVariables : Sound (.map said.fromVariables) :=
  (Variables.sections_of_entries said.areVariables).1

theorem sound_middle : Sound (.map said.middle) :=
  Variables.sound_layEntries said.sound_fromVariables said.sound_fromFile.inner

theorem sound_upper : Sound (.map said.upper) :=
  Variables.sound_layEntries .nil said.sound_middle.inner

theorem sound_together : Sound (.map said.together) :=
  Variables.sound_layEntries (sound_fromDirectories said.areDirectories) said.sound_upper.inner

variable {said} {way : List Value}

theorem upper_along? (hne : way ≠ []) (hway : ∀ key ∈ way, Certain key)
    (hopens : (Value.map said.upper).Opens way) :
    (Value.map said.upper).along? way = (Value.map said.middle).along? way ∧
      (Value.map said.middle).Opens way := by
  obtain ⟨halong, hmiddle⟩ := Variables.along?_layEntries hway said.sound_middle hopens
  have hnone : (Value.map []).along? way = none := by
    cases way with
    | nil => exact absurd rfl hne
    | cons => rfl
  refine ⟨?_, hmiddle⟩
  rw [upper, halong, hnone]
  cases (Value.map said.middle).along? way with
  | none => rfl
  | some v => exact congrArg some (Variables.laidOver_none v)

/-- All that is said about a place without a map is what is said first. -/
theorem together_along? (hne : way ≠ []) (hway : ∀ key ∈ way, Certain key)
    (hopens : (Value.map said.together).Opens way)
    (hplain : ∀ entries, (Value.map said.together).along? way ≠ some (.map entries)) :
    (Value.map said.together).along? way = said.first? way ∧
      ((Value.map said.fromFile).along? way = none →
        ∀ entries, (Value.map said.fromVariables).along? way ≠ some (.map entries)) := by
  obtain ⟨htogether, hupper⟩ :=
    Variables.along?_layEntries_plain hway said.sound_upper hopens hplain
  obtain ⟨hsame, hmiddle⟩ :=
    upper_along? hne hway (Variables.along?_layEntries hway said.sound_upper hopens).2
  rw [hsame] at hupper htogether
  have hfirst := (Variables.along?_layEntries_plain hway said.sound_fromFile hmiddle hupper).1
  rw [middle, hfirst] at hupper
  refine ⟨?_, fun hfile => by rwa [hfile] at hupper⟩
  rw [together, htogether, middle, hfirst, Option.or_assoc]
  rfl

/-- Something is said about a place if one of the sources says it. -/
theorem together_along?_isSome (hne : way ≠ []) (hway : ∀ key ∈ way, Certain key)
    (hopens : (Value.map said.together).Opens way) :
    ((Value.map said.together).along? way).isSome = (said.first? way).isSome := by
  obtain ⟨htogether, hupper⟩ := Variables.along?_layEntries hway said.sound_upper hopens
  obtain ⟨hsame, hmiddle⟩ := upper_along? hne hway hupper
  have hfirst := (Variables.along?_layEntries hway said.sound_fromFile hmiddle).1
  rw [together, htogether, hsame, middle, hfirst, first?]
  cases (Value.map said.fromFile).along? way with
  | some => rfl
  | none => cases (Value.map said.fromVariables).along? way <;> rfl

end Said

theorem exists_of_loadFile {s : Surroundings} {path : String} {st : Settings}
    (h : (loadFile s path).settings = .ok st) :
    ∃ text given, s.at? (Path.tidy path) = .file text ∧
      givenBy (Path.tidy path) text = .ok given ∧ (load s given).settings = .ok st := by
  unfold loadFile at h
  dsimp only at h
  split at h
  · cases h
  · cases h
  · cases h
  · next text htext =>
    split at h
    · cases h
    · next given hgiven => exact ⟨text, given, htext, hgiven, h⟩

theorem exists_of_load {s : Surroundings} {given : List (Value × Value)} {st : Settings}
    (h : (load s given).settings = .ok st) :
    ∃ sources file, Sources.ofEntries given = .ok sources ∧ (envFiles s sources).2 = .ok file ∧
      merge s sources given file = .ok st := by
  unfold load at h
  split at h
  · cases h
  · split at h
    · cases h
    · next sources hsources =>
      have hbind : ((envFiles s sources).2 >>= merge s sources given) = .ok st := h
      obtain ⟨file, hfile, hmerge⟩ := both_of_bind hbind
      exact ⟨sources, file, hsources, hfile, hmerge⟩

/-- Settings that are loaded without files of variables are those of all that is said. -/
theorem exists_said {s : Surroundings} {path : String} {st : Settings}
    (hnone : NoVariableFiles s path) (h : (loadFile s path).settings = .ok st) :
    ∃ said : Said s path, ofEntries s.settingsRoom said.together = .ok st := by
  obtain ⟨text, given, htext, hgiven, hload⟩ := exists_of_loadFile h
  obtain ⟨sources, file, hsources, hfile, hmerge⟩ := exists_of_load hload
  have hnames : filesNamedBy (Path.tidy path) text = sources.files := by
    unfold filesNamedBy
    rw [hgiven, Except.bind, hsources]
  obtain rfl := envFiles_of_none (hnames ▸ hnone text htext) hfile
  obtain ⟨fromVariables, directories, hvariables, hdirectories, hst⟩ := exists_of_merge hmerge
  exact ⟨⟨text, given, sources, fromVariables, directories, htext, hgiven, hsources,
    hvariables, hdirectories⟩, hst⟩

/-! ## Settings that hold no others -/

/-- What relates a check, a default and a place to what is read there. -/
abbrev Relation (place : Type) := ∀ {α : Type}, (Value → Checked α) → α → place → α → Prop

/-- The relation holds of each setting that holds no others, outside of the engines. -/
structure EachSetting (r : Relation (List String)) (st : Settings) : Prop where
  appName : r Check.text "searchrecord" ["app_name"] st.appName
  debug : r Check.bool false ["debug"] st.debug
  defaultEngine : r Check.text "solr" ["search", "default_adapter"] st.search.defaultEngine
  groupFields : r Check.bool false ["compiler", "group_hash_fields"] st.groupFields
  level : r Check.text "info" ["observability", "log_level"] st.log.level
  format : r Check.text "json" ["observability", "log_format"] st.log.format

/-- The relation holds of each setting of an engine that holds no others. -/
structure EachPart (r : Relation String) (c : EngineConfig) : Prop where
  enabled : r Check.bool true "enabled" c.enabled
  indexPattern : r Check.text "*" "index_pattern" c.indexPattern
  username : r (Check.optional Check.text) none "username" c.username
  password : r (Check.optional Check.text) none "password" c.password
  apiKey : r (Check.optional Check.text) none "api_key" c.apiKey
  timeout : r Check.positive 30 "timeout" c.timeout

open Check (Refuses settle ReadsAlong reads_field reads_section exists_map_of_fields)

theorem EachSetting.imp {r r' : Relation (List String)} {st : Settings} (h : EachSetting r st)
    (himp : ∀ {α : Type} {check : Value → Checked α} {default a : α} {way : List String},
      Refuses check → way ≠ [] → r check default way a → r' check default way a) :
    EachSetting r' st where
  appName := himp Check.refuses_text (by simp) h.appName
  debug := himp Check.refuses_bool (by simp) h.debug
  defaultEngine := himp Check.refuses_text (by simp) h.defaultEngine
  groupFields := himp Check.refuses_bool (by simp) h.groupFields
  level := himp Check.refuses_text (by simp) h.level
  format := himp Check.refuses_text (by simp) h.format

theorem EachPart.imp {r r' : Relation String} {c : EngineConfig} (h : EachPart r c)
    (himp : ∀ {α : Type} {check : Value → Checked α} {default a : α} {part : String},
      Refuses check → r check default part a → r' check default part a) : EachPart r' c where
  enabled := himp Check.refuses_bool h.enabled
  indexPattern := himp Check.refuses_text h.indexPattern
  username := himp Check.refuses_optional h.username
  password := himp Check.refuses_optional h.password
  apiKey := himp Check.refuses_optional h.apiKey
  timeout := himp Check.refuses_positive h.timeout

/-! ## What settings read from all that is said -/

section

variable {room : Nat} {es : List (Value × Value)} {st : Settings} {v : Value}

theorem reads_search {search : SearchSettings} (h : SearchSettings.check room v = .ok search) :
    ReadsAlong Check.text "solr" [.text "default_adapter"] v search.defaultEngine ∧
      ReadsAlong (Check.dict (EngineConfig.check room)) [] [.text "adapters"] v search.engines := by
  obtain ⟨es, rfl, hes⟩ := exists_map_of_fields h
  simp only [SearchSettings.ofEntries, Checked.seq_eq_ok, Checked.fmap_eq_ok] at hes
  obtain ⟨_, _, ⟨defaultEngine, hdefault, rfl⟩, hengines, rfl⟩ := hes
  exact ⟨reads_field hdefault, reads_field hengines⟩

theorem reads_log {log : LogSettings} (h : LogSettings.check v = .ok log) :
    ReadsAlong Check.text "info" [.text "log_level"] v log.level ∧
      ReadsAlong Check.text "json" [.text "log_format"] v log.format := by
  obtain ⟨es, rfl, hes⟩ := exists_map_of_fields h
  simp only [LogSettings.ofEntries, Checked.seq_eq_ok, Checked.fmap_eq_ok] at hes
  obtain ⟨_, _, ⟨level, hlevel, rfl⟩, hformat, rfl⟩ := hes
  exact ⟨reads_field hlevel, reads_field hformat⟩

theorem reads_groupFields {b : Bool} (h : checkGroupFields v = .ok b) :
    ReadsAlong Check.bool false [.text "group_hash_fields"] v b := by
  obtain ⟨es, rfl, hes⟩ := exists_map_of_fields h
  exact reads_field hes

theorem reads_parts {c : EngineConfig} (h : EngineConfig.check room v = .ok c) :
    EachPart (fun check default part a => ReadsAlong check default [.text part] v a) c := by
  obtain ⟨es, rfl, hes⟩ := exists_map_of_fields h
  simp only [EngineConfig.ofEntries, Checked.seq_eq_ok, Checked.fmap_eq_ok] at hes
  obtain ⟨_, _, ⟨_, _, ⟨_, _, ⟨_, _, ⟨_, _, ⟨_, _, ⟨_, _, ⟨_, henabled, rfl⟩, -, rfl⟩, hpattern,
    rfl⟩, husername, rfl⟩, hpassword, rfl⟩, hkey, rfl⟩, htimeout, rfl⟩, -, rfl⟩ := hes
  exact ⟨reads_field henabled, reads_field hpattern, reads_field husername,
    reads_field hpassword, reads_field hkey, reads_field htimeout⟩

/-- Settings read each value at its place, and the engines under theirs. -/
theorem reads_settings (h : ofEntries room es = .ok st) :
    EachSetting (fun check default way a =>
        ReadsAlong check default (way.map .text) (.map es) a) st ∧
      ReadsAlong (Check.dict (EngineConfig.check room)) [] [.text "search", .text "adapters"]
        (.map es) st.search.engines := by
  simp only [ofEntries, Checked.seq_eq_ok, Checked.fmap_eq_ok] at h
  obtain ⟨_, _, ⟨_, _, ⟨_, _, ⟨_, _, ⟨_, _, ⟨_, happ, rfl⟩, hdebug, rfl⟩, hsearch, rfl⟩, hgroup,
    rfl⟩, hlog, rfl⟩, -, rfl⟩ := h
  refine ⟨⟨reads_field happ, reads_field hdebug, ?_, ?_, ?_, ?_⟩, ?_⟩
  · exact reads_section hsearch (fun v hv => (reads_search hv).1) fun h => h ▸ rfl
  · exact reads_section hgroup (fun v hv => reads_groupFields hv) fun h => h
  · exact reads_section hlog (fun v hv => (reads_log hv).1) fun h => h ▸ rfl
  · exact reads_section hlog (fun v hv => (reads_log hv).2) fun h => h ▸ rfl
  · exact reads_section hsearch (fun v hv => (reads_search hv).2) fun h => h ▸ rfl

/-- Engines are read from a map, each from an entry of its own. -/
theorem exists_of_dict {engines : List (String × EngineConfig)}
    (h : Check.dict (EngineConfig.check room) v = .ok engines) :
    ∃ entries checked, v = .map entries ∧
      entries.map (Check.entry (EngineConfig.check room)) = checked.map .ok ∧
      engines = Entries.ofList checked := by
  unfold Check.dict at h
  split at h
  · next entries =>
    obtain ⟨checked, hall, rfl⟩ := Checked.map_eq_ok.mp h
    exact ⟨entries, checked, rfl, Checked.all_eq_ok.mp hall, rfl⟩
  · cases h

theorem certain_of_text {key : Value} {e : String} (h : Check.text key = .ok e) : Certain key := by
  cases hkey : key.text? with
  | some s => exact Value.certain_of_text? hkey
  | none =>
    cases key with
    | bytes b => exact Value.certain_bytes b
    | text | direction | operator => cases hkey
    | _ => simp [Check.text, Value.text?, Checked.flawed] at h

theorem entry_eq_ok {entry : Value × Value} {e : String × EngineConfig}
    (h : Check.entry (EngineConfig.check room) entry = .ok e) :
    Check.text entry.1 = .ok e.1 ∧ EngineConfig.check room entry.2 = .ok e.2 := by
  simpa [Check.entry] using h

section

variable {engines : List (String × EngineConfig)}
  (h : Check.dict (EngineConfig.check room) v = .ok engines)
include h

/-- The parts of an engine are read under its key. -/
theorem reads_engine {e : String} {c : EngineConfig} (hsound : Sound v) (hmem : (e, c) ∈ engines) :
    ∃ key, Check.text key = .ok e ∧
      EachPart (fun check default part a => ReadsAlong check default [key, .text part] v a) c := by
  obtain ⟨entries, checked, rfl, hentries, rfl⟩ := exists_of_dict h
  have hchecked : Checked.ok (e, c) ∈ entries.map (Check.entry (EngineConfig.check room)) :=
    hentries ▸ List.mem_map_of_mem (Entries.mem_of_mem_ofList hmem)
  obtain ⟨⟨key, w⟩, hentry, hpass⟩ := List.mem_map.mp hchecked
  obtain ⟨hkey, hw⟩ := entry_eq_ok hpass
  have hlookup := (certain_of_text hkey).lookup_of_mem hsound.distinct hentry
  refine ⟨key, hkey, (reads_parts hw).imp fun _ hread => .under (fun x hx => ?_) fun hnone => ?_⟩
  · rw [hlookup] at hx
    cases hx
    exact hread
  · rw [hlookup] at hnone
    cases hnone

/-- An engine that has an entry is there. -/
theorem engine_of_lookup {e : String} (hlookup : (v.along? [.text e]).isSome) :
    e ∈ Entries.keys engines := by
  obtain ⟨entries, checked, rfl, hentries, rfl⟩ := exists_of_dict h
  rw [Value.along?_one] at hlookup
  obtain ⟨w, hw⟩ := Option.isSome_iff_exists.mp hlookup
  obtain ⟨key, hkey, hmem⟩ := Entries.exists_mem_of_lookup hw
  rw [Value.beq_of_text? rfl, beq_iff_eq] at hkey
  have hchecked : Check.entry (EngineConfig.check room) (key, w) ∈ checked.map .ok :=
    hentries ▸ List.mem_map_of_mem hmem
  obtain ⟨⟨e', c⟩, hmem', hpass⟩ := List.mem_map.mp hchecked
  have htext : Check.text key = .ok e' := (entry_eq_ok hpass.symm).1
  have hname : e' = e := by
    simpa [Check.text, hkey] using htext.symm
  rw [Entries.mem_keys_ofList_iff, ← hname]
  exact List.mem_map_of_mem hmem'

end

end

/-! ## The first word -/

/-- What settings that are loaded from a file are. -/
structure GoesBy {s : Surroundings} {path : String} (said : Said s path) (st : Settings) :
    Prop where
  /-- Each setting is what is said first about it, else its default. -/
  settings : EachSetting (fun check default way a =>
    settle check default (said.first? (way.map .text)) = .ok a) st
  /-- So is each setting of an engine, under a key of the engine. -/
  engines : ∀ e c, (e, c) ∈ st.search.engines → ∃ key, Check.text key = .ok e ∧
    EachPart (fun check default part a => settle check default
      (said.first? [.text "search", .text "adapters", key, .text part]) = .ok a) c
  /-- Every engine is there that one of the sources names. -/
  named : ∀ e, (said.first? [.text "search", .text "adapters", .text e]).isSome →
    e ∈ Entries.keys st.search.engines
  /-- The file says what stands in it under the name of a setting. -/
  entry : ∀ row ∈ Variables.sections, ∀ v, said.given.lookup (.text row.1) = some v →
    said.fromFile.lookup (.text row.1) = some v
  /-- The variables say about a setting outside sections what the one with its name holds. -/
  own : ∀ field, (field, .plain) ∈ Variables.sections →
    (Value.map said.fromVariables).along? [.text field] =
      (said.held? (said.sources.naming.nameOf field)).map said.sources.naming.plainValue
  /-- About a setting in a section that the file leaves open they say what the one with its name
  holds, unless there is one for the whole section. -/
  part : ∀ field fields name divider, (field, .parts fields) ∈ Variables.sections →
    (name, .plain) ∈ fields → said.sources.naming.divider = some divider → divider ≠ "" →
    ¬ divider.toList <:+: name.toList →
    said.held? (said.sources.naming.nameOf field) = none →
    (Value.map said.fromFile).along? [.text field, .text name] = none →
    (Value.map said.fromVariables).along? [.text field, .text name] =
      (said.held? (said.sources.naming.ownName field divider name)).map
        said.sources.naming.plainValue

theorem certain_texts (way : List String) : ∀ key ∈ way.map Value.text, Certain key := by
  intro key hkey
  obtain ⟨name, -, rfl⟩ := List.mem_map.mp hkey
  exact Value.certain_text name

section

variable {s : Surroundings} {path : String} {said : Said s path}

/-- What is read at a place without a map is what is said first about it. -/
theorem settle_first? {α : Type} {check : Value → Checked α} {default a : α} {way : List Value}
    (hrefuses : Check.Refuses check) (hne : way ≠ []) (hway : ∀ key ∈ way, Certain key)
    (hread : ReadsAlong check default way (.map said.together) a) :
    settle check default (said.first? way) = .ok a := by
  rw [← (said.together_along? hne hway hread.1 (hread.plain hrefuses)).1]
  exact hread.2

section

variable {st : Settings} (h : ofEntries s.settingsRoom said.together = .ok st)
include h

theorem engine_is_what_is_said {e : String} {c : EngineConfig} (hmem : (e, c) ∈ st.search.engines) :
    ∃ key, Check.text key = .ok e ∧ EachPart (fun check default part a => settle check default
      (said.first? [.text "search", .text "adapters", key, .text part]) = .ok a) c := by
  obtain ⟨hopens, hengines⟩ := (reads_settings h).2
  cases hv : (Value.map said.together).along? [.text "search", .text "adapters"] with
  | none =>
    rw [hv] at hengines
    rw [← Checked.ok.inj hengines] at hmem
    cases hmem
  | some v =>
    rw [hv] at hengines
    obtain ⟨key, hkey, hparts⟩ := reads_engine hengines (said.sound_together.along? hv) hmem
    refine ⟨key, hkey, hparts.imp fun {_ _ _ _ part} hrefuses hread => ?_⟩
    have hway : ∀ k ∈ [.text "search", .text "adapters", key, .text part], Certain k := by
      simp [Value.certain_text, certain_of_text hkey]
    exact settle_first? hrefuses (by simp) hway (hread.behind hopens hv)

theorem engine_is_there {e : String}
    (hnamed : (said.first? [.text "search", .text "adapters", .text e]).isSome) :
    e ∈ Entries.keys st.search.engines := by
  obtain ⟨hopens, hengines⟩ := (reads_settings h).2
  have hbehind : ∀ w, (Value.map said.together).along? [.text "search", .text "adapters"] = some w →
      w.Opens [.text e] := by
    intro w hw
    rw [hw] at hengines
    obtain ⟨entries, -, rfl, -⟩ := exists_of_dict hengines
    exact fun _ _ => trivial
  have hthere : ((Value.map said.together).along?
      [.text "search", .text "adapters", .text e]).isSome := by
    exact (said.together_along?_isSome (by simp) (certain_texts ["search", "adapters", e])
      (hopens.append hbehind)).trans hnamed
  obtain ⟨w, hw⟩ := Option.isSome_iff_exists.mp hthere
  obtain ⟨v, hv, hlookup⟩ := Option.bind_eq_some_iff.mp
    ((Value.along?_append [.text "search", .text "adapters"] [.text e] _).symm.trans hw)
  rw [hv] at hengines
  exact engine_of_lookup hengines (by simp [hlookup])

theorem part_is_what_is_held {field : String} {fields : List (String × Variables.Shape)}
    {name divider : String} (hrow : (field, .parts fields) ∈ Variables.sections)
    (hname : (name, .plain) ∈ fields) (hdivider : said.sources.naming.divider = some divider)
    (hne : divider ≠ "") (huncut : ¬ divider.toList <:+: name.toList)
    (hwhole : said.held? (said.sources.naming.nameOf field) = none)
    (hfile : (Value.map said.fromFile).along? [.text field, .text name] = none) :
    (Value.map said.fromVariables).along? [.text field, .text name] =
      (said.held? (said.sources.naming.ownName field divider name)).map
        said.sources.naming.plainValue := by
  have hread : ∃ (α : Type) (check : Value → Checked α) (default a : α), Check.Refuses check ∧
      ReadsAlong check default [.text field, .text name] (.map said.together) a := by
    have hall := (reads_settings h).1
    obtain ⟨rfl, rfl⟩ | ⟨rfl, rfl⟩ | ⟨rfl, rfl⟩ | ⟨rfl, rfl⟩ :=
      Variables.plain_part_cases hrow hname
    · exact ⟨_, _, _, _, Check.refuses_text, hall.defaultEngine⟩
    · exact ⟨_, _, _, _, Check.refuses_bool, hall.groupFields⟩
    · exact ⟨_, _, _, _, Check.refuses_text, hall.level⟩
    · exact ⟨_, _, _, _, Check.refuses_text, hall.format⟩
  obtain ⟨_, _, _, _, hrefuses, hread⟩ := hread
  have hplain := (said.together_along? (by simp) (certain_texts [field, name]) hread.1
    (hread.plain hrefuses)).2 hfile
  have hheld := Variables.along?_part said.areVariables (Variables.keys_given_nodup _ _)
    (Variables.isFolded_given _ _) hrow hname hdivider hne huncut
    (by rw [Variables.lookup_given]; simp [Said.held?] at hwhole; simp [hwhole]) hplain
  rw [hheld, Variables.lookup_given, Option.map_map]
  rfl

end

end

/-- Without files of variables each setting that is loaded from a file is what the file says, or
else the variables, or else the files of directories, or else the default, and what is said about
one setting leaves the others as they are. -/
theorem each_setting_is_what_is_said_first {s : Surroundings} {path : String} {st : Settings}
    (hnone : NoVariableFiles s path) (h : (loadFile s path).settings = .ok st) :
    ∃ said : Said s path, GoesBy said st := by
  obtain ⟨said, hst⟩ := exists_said hnone h
  obtain ⟨hsettings, hengines⟩ := reads_settings hst
  refine ⟨said, ?_, ?_, ?_, ?_, ?_, ?_⟩
  · exact hsettings.imp fun hrefuses hne hread =>
      settle_first? hrefuses (by simpa using hne) (certain_texts _) hread
  · exact fun e c hmem => engine_is_what_is_said hst hmem
  · exact fun e hnamed => engine_is_there hst hnamed
  · exact fun row hrow v hv => lookup_named hrow hv
  · intro field hrow
    rw [Variables.along?_plain said.areVariables hrow, Variables.lookup_given]
    unfold Said.held?
    cases Variables.inSurroundings? said.sources.naming s (said.sources.naming.nameOf field) <;> rfl
  · exact fun field fields name divider => part_is_what_is_held hst

/-! A file and variables that say something about the same settings, and about neighbours. -/

/-- The outcome of a load, if it comes to settings that pass a test. -/
theorem exists_of_test {x : Except Fault Settings} (test : Settings → Bool)
    (h : (match x with
      | .ok st => test st
      | .error _ => false) = true) : ∃ st, x = .ok st ∧ test st = true := by
  cases x with
  | error fault => cases h
  | ok st => exact ⟨st, rfl, h⟩

theorem noVariableFiles_of_test {s : Surroundings} {path : String}
    (h : (match s.at? (Path.tidy path) with
      | .file text => (filesNamedBy (Path.tidy path) text).all fun file =>
        match s.at? file with
        | .file _ => false
        | _ => true
      | _ => true) = true) : NoVariableFiles s path := by
  intro text htext file hfile found hfound
  rw [htext] at h
  have hnone := List.all_eq_true.mp h file hfile
  rw [hfound] at hnone
  cases hnone

/-- A file and a variable name the program. -/
def twoNames : Surroundings where
  environment := [("SEARCHRECORD_APP_NAME", "env")]
  files := [("c.yaml", "app_name: file\n")]

/-- The file has the first word, whatever the variable says. -/
theorem a_variable_is_overruled_by_the_file :
    NoVariableFiles twoNames "c.yaml" ∧ ("SEARCHRECORD_APP_NAME", "env") ∈ twoNames.environment ∧
      ∃ st, (loadFile twoNames "c.yaml").settings = .ok st ∧ st.appName ≠ "env" := by
  refine ⟨noVariableFiles_of_test (by decide +kernel), List.mem_singleton_self _, ?_⟩
  obtain ⟨st, hst, htest⟩ : ∃ st, (loadFile twoNames "c.yaml").settings = .ok st ∧ _ :=
    exists_of_test (fun st => st.appName == "file") (by decide +kernel)
  exact ⟨st, hst, by simp [eq_of_beq htest]⟩

/-- A file and variables in letters of any size share the settings of one engine. -/
def sharedEngine : Surroundings where
  environment := [("SEARCHRECORD_APP_NAME", "env"),
    ("SearchRecord_Search__Default_Adapter", "opensearch"),
    ("searchrecord_search__adapters__solr__username", "reader")]
  files := [("c.yaml",
    "app_name: file\nsearch:\n  adapters:\n    solr:\n      index_pattern: books\n")]

theorem the_file_and_the_variables_share_an_engine :
    ∃ st, NoVariableFiles sharedEngine "c.yaml" ∧
      (loadFile sharedEngine "c.yaml").settings = .ok st ∧
      (∃ said : Said sharedEngine "c.yaml", GoesBy said st) ∧
      st.appName = "file" ∧ st.search.defaultEngine = "opensearch" ∧
      st.search.engines.map (fun e => (e.1, e.2.indexPattern, e.2.username)) =
        [("solr", "books", some "reader")] := by
  have hnone : NoVariableFiles sharedEngine "c.yaml" :=
    noVariableFiles_of_test (by decide +kernel)
  obtain ⟨st, hst, htest⟩ : ∃ st, (loadFile sharedEngine "c.yaml").settings = .ok st ∧ _ :=
    exists_of_test (fun st => st.appName == "file" && st.search.defaultEngine == "opensearch" &&
      st.search.engines.map (fun e => (e.1, e.2.indexPattern, e.2.username)) ==
        [("solr", "books", some "reader")]) (by decide +kernel)
  simp only [Bool.and_eq_true, beq_iff_eq] at htest
  exact ⟨st, hnone, hst, each_setting_is_what_is_said_first hnone hst, htest.1.1, htest.1.2,
    htest.2⟩

end Settings

end SearchQuery
