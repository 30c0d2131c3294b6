-- The variable of a setting. Its name is that of the program, the section and the setting,
-- in letters of any size; what it holds is what the variables say about the setting, whatever
-- else they say.
import SearchQuery.Proofs.SmallLetters
import SearchQuery.Proofs.SoundSources

namespace SearchQuery

open CommandLine (both_of_bind holds_after_steps)
open Entries (Certain Distinct)
open Value (Sound)

namespace Variables

/-! ## Ways of names -/

section

variable {divider cs : List Char} {most : Nat}

theorem splitNames_ne_nil : splitNames divider most cs ≠ [] := by
  fun_induction splitNames divider most cs <;> simp_all

/-- The pieces are made of the characters of the text. -/
theorem mem_of_mem_splitNames :
    ∀ piece ∈ splitNames divider most cs, ∀ c ∈ piece, c ∈ cs := by
  fun_induction splitNames divider most cs with
  | case1 => simp
  | case2 => simp
  | case3 more c rest _ ih =>
    intro piece hpiece d hd
    obtain rfl | hpiece := List.mem_cons.mp hpiece
    · cases hd
    · exact List.mem_cons_of_mem _ (List.mem_of_mem_drop (ih piece hpiece d hd))
  | case4 => simp
  | case5 more c rest _ piece pieces hsplit ih =>
    rw [hsplit, List.forall_mem_cons] at ih
    refine List.forall_mem_cons.mpr ⟨fun d hd => ?_, fun other hother d hd => ?_⟩
    · exact List.mem_cons.mpr ((List.mem_cons.mp hd).imp_right (ih.1 d))
    · exact List.mem_cons_of_mem _ (ih.2 other hother d hd)

/-- A text without a divider is one piece. -/
theorem splitNames_of_uncut (h : ¬ divider <:+: cs) : splitNames divider most cs = [cs] := by
  fun_induction splitNames divider most cs with
  | case1 => rfl
  | case2 => rfl
  | case3 more c rest hprefix =>
    exact absurd (List.isPrefixOf_iff_prefix.mp hprefix).isInfix h
  | case4 more c rest _ hsplit => exact absurd hsplit splitNames_ne_nil
  | case5 more c rest _ piece pieces hsplit ih =>
    rw [ih fun hrest => h (hrest.trans (List.suffix_cons c rest).isInfix)] at hsplit
    cases hsplit
    rfl

/-- A text that is one piece is that piece. -/
theorem eq_of_splitNames_eq {piece : List Char} (h : splitNames divider most cs = [piece]) :
    cs = piece := by
  fun_induction splitNames divider most cs generalizing piece with
  | case1 => simpa using h
  | case2 => simpa using h
  | case3 => exact absurd (List.cons.inj h).2 splitNames_ne_nil
  | case4 more c rest _ hsplit => exact absurd hsplit splitNames_ne_nil
  | case5 more c rest _ first pieces hsplit ih =>
    obtain ⟨rfl, rfl⟩ := List.cons.inj h
    rw [ih hsplit]

end

variable {n : Naming} {field : String}

/-- The most dividers at which a text is cut. -/
def Naming.most (n : Naming) (rest : List Char) : Nat :=
  match n.maxNames with
  | some count => count - 1
  | none => rest.length

theorem dropLast_append_getLastD {l : List String} (h : l ≠ []) :
    l.dropLast ++ [l.getLastD ""] = l := by
  rw [List.getLastD_eq_getLast?, List.getLast?_eq_some_getLast h, Option.getD_some,
    List.dropLast_append_getLast h]

/-- A variable leads into a section by the names behind the section's own. -/
theorem way?_eq_some_iff {name : String} {way : List String} {last : String} :
    way? n field name = some (way, last) ↔
      ∃ divider rest, n.divider = some divider ∧ divider ≠ "" ∧
        name = n.nameOf field ++ divider ++ rest ∧
        (splitNames divider.toList (n.most rest.toList) rest.toList).map String.ofList =
          way ++ [last] := by
  unfold way?
  cases hdivider : n.divider with
  | none => simp
  | some divider =>
    simp only [Option.bind_eq_bind, Option.bind_some, Option.some.injEq]
    constructor
    · intro h
      split at h
      · next hopening =>
        rw [Bool.and_eq_true, bne_iff_ne, List.isPrefixOf_iff_prefix] at hopening
        obtain ⟨hne, rest, hrest⟩ := hopening
        rw [← hrest, List.drop_left] at h
        refine ⟨divider, String.ofList rest, rfl, hne, ?_, ?_⟩
        · rw [← String.toList_inj, String.toList_append, String.toList_ofList, hrest]
        · rw [String.toList_ofList]
          obtain ⟨rfl, rfl⟩ := Prod.ext_iff.mp (Option.some.inj h)
          exact (dropLast_append_getLastD (by simpa using splitNames_ne_nil)).symm
      · cases h
    · rintro ⟨_, rest, rfl, hne, rfl, hnames⟩
      generalize n.nameOf field ++ divider = opening
      have hfront : divider != "" && opening.toList.isPrefixOf (opening ++ rest).toList := by
        rw [String.toList_append, Bool.and_eq_true, bne_iff_ne, List.isPrefixOf_iff_prefix]
        exact ⟨hne, List.prefix_append ..⟩
      rw [if_pos hfront, String.toList_append, List.drop_left]
      have hends : ∀ {names : List String}, names = way ++ [last] →
          some (names.dropLast, names.getLastD "") = some (way, last) := by
        rintro names rfl
        rw [List.dropLast_concat, List.getLastD_concat]
      exact hends hnames

/-- The name of the variable of a setting. -/
def Naming.ownName (n : Naming) (field divider name : String) : String :=
  n.nameOf field ++ divider ++ name

/-- The variable that leads to a setting at once has the name for that. -/
theorem eq_ownName {variableName name : String} (h : way? n field variableName = some ([], name)) :
    ∃ divider, n.divider = some divider ∧ variableName = n.ownName field divider name := by
  obtain ⟨divider, rest, hdivider, -, rfl, hnames⟩ := way?_eq_some_iff.mp h
  obtain ⟨piece, hpiece, rfl⟩ := List.map_eq_singleton_iff.mp hnames
  refine ⟨divider, hdivider, ?_⟩
  rw [Naming.ownName, ← eq_of_splitNames_eq hpiece, String.ofList_toList]

theorem only_own {own other name : String} (hown : way? n field own = some ([], name))
    (hother : way? n field other = some ([], name)) : other = own := by
  obtain ⟨divider, hdivider, rfl⟩ := eq_ownName hown
  obtain ⟨divider', hdivider', rfl⟩ := eq_ownName hother
  rw [hdivider] at hdivider'
  cases hdivider'
  rfl

theorem way?_ownName {divider name : String} (hdivider : n.divider = some divider)
    (hne : divider ≠ "") (hname : ¬ divider.toList <:+: name.toList) :
    way? n field (n.ownName field divider name) = some ([], name) :=
  way?_eq_some_iff.mpr ⟨divider, name, hdivider, hne, rfl, by
    rw [splitNames_of_uncut hname]
    simp⟩

/-- The names on a way are made of the characters of the variable. -/
theorem mem_of_mem_way {name : String} {way : List String} {last : String}
    (h : way? n field name = some (way, last)) :
    ∀ piece ∈ way ++ [last], ∀ c ∈ piece.toList, c ∈ name.toList := by
  obtain ⟨divider, rest, -, -, rfl, hnames⟩ := way?_eq_some_iff.mp h
  rw [← hnames]
  intro piece hpiece c hc
  obtain ⟨cs, hcs, rfl⟩ := List.mem_map.mp hpiece
  rw [String.toList_ofList] at hc
  rw [String.toList_append]
  exact List.mem_append_right _ (mem_of_mem_splitNames cs hcs c hc)

/-! ## What stands under the name of a setting -/

/-- There is no value, or a map. -/
def IsOpen (v : Option Value) : Prop := ∀ w, v = some w → ∃ entries, w = .map entries

theorem isOpen_map (entries : List (Value × Value)) : IsOpen (some (.map entries)) := by
  rintro _ ⟨⟩
  exact ⟨entries, rfl⟩

/-- A value that is put elsewhere leaves what stands under a name, unless that is a map. -/
theorem lookup_putAt {way : List String} {last name : String} (h : way ++ [last] ≠ [name])
    (v : Value) (es : List (Value × Value)) :
    (putAt way last v es).lookup (.text name) = es.lookup (.text name) ∨
      IsOpen (es.lookup (.text name)) ∧
        IsOpen ((putAt way last v es).lookup (.text name)) := by
  have hkey := Value.certain_text name
  cases way with
  | nil =>
    have hne : (Value.text name == Value.text last) = false := by
      rw [Value.text_beq_text]
      exact beq_false_of_ne fun heq => h (by rw [heq, List.nil_append])
    rw [putAt, hkey.lookup_put, hne]
    exact Or.inl rfl
  | cons first way =>
    have hfirst : ∀ inner, IsOpen (es.lookup (.text first)) →
        (Entries.put (.text first) (.map inner) es).lookup (.text name) = es.lookup (.text name) ∨
          IsOpen (es.lookup (.text name)) ∧
            IsOpen ((Entries.put (.text first) (.map inner) es).lookup (.text name)) := by
      intro inner hopen
      rw [hkey.lookup_put, Value.text_beq_text]
      by_cases heq : name = first
      · subst heq
        rw [beq_self_eq_true, if_pos rfl]
        exact Or.inr ⟨hopen, isOpen_map inner⟩
      · rw [beq_false_of_ne heq]
        exact Or.inl rfl
    unfold putAt
    split
    · next inner hinner => exact hfirst _ (hinner ▸ isOpen_map inner)
    · next hnone => exact hfirst _ (by simp [hnone, IsOpen])
    · exact Or.inl rfl

/-- The value of a variable whose place holds no others. -/
def Naming.held (n : Naming) : Option String → Value
  | some s => n.plainValue s
  | none => .null

theorem Naming.held_ne_map (n : Naming) (s : Option String) (entries : List (Value × Value)) :
    n.held s ≠ .map entries := by
  cases s with
  | none => simp [held]
  | some s => exact n.plainValue_ne_map s entries

section

variable {shape : Shape} {vars : Given} {name own : String}
  {start es : List (Value × Value)}

/-- Variables that lead elsewhere leave what stands under a name, unless that is a map. -/
theorem lookup_of_others (hothers : ∀ one ∈ vars, way? n field one.1 ≠ some ([], name))
    (h : vars.foldlM (putInside room n field shape) (some start) = .ok (some es)) :
    es.lookup (.text name) = start.lookup (.text name) ∨
      IsOpen (start.lookup (.text name)) ∧ IsOpen (es.lookup (.text name)) := by
  refine holds_inside (p := fun es => es.lookup (.text name) = start.lookup (.text name) ∨
    IsOpen (start.lookup (.text name)) ∧ IsOpen (es.lookup (.text name)))
    (fun one hone way last v es hway _ hes => ?_) (Or.inl rfl) h
  have hne : way ++ [last] ≠ [name] := fun heq => hothers one hone (by
    cases way with
    | nil => rw [hway, List.singleton_inj.mp heq]
    | cons => simp at heq)
  obtain hput | ⟨hbefore, hafter⟩ := lookup_putAt hne v es
  · rwa [hput]
  · refine Or.inr ⟨?_, hafter⟩
    obtain hsame | ⟨hstart, -⟩ := hes
    · rwa [← hsame]
    · exact hstart

/-- What stands under the name of a setting is what its own variable holds; without one there
is nothing, or a map of what others put there. -/
theorem lookup_inside (hvars : (Entries.keys vars).Nodup)
    (hown : way? n field own = some ([], name))
    (hplain : ∀ s v,
      valueAt? room n (Target.follow? n { shape } [name]) s = .ok (some v) → v = n.held s)
    (h : inside? room n vars field shape = .ok (some es)) :
    match vars.lookup own with
    | some s => es.lookup (.text name) = some (n.held s)
    | none => IsOpen (es.lookup (.text name)) := by
  rw [inside?_eq] at h
  cases hlookup : vars.lookup own with
  | none =>
    rw [List.lookup_eq_none_iff] at hlookup
    have hothers : ∀ one ∈ vars, way? n field one.1 ≠ some ([], name) := fun one hone hway => by
      simpa [only_own hown hway] using hlookup one hone
    obtain hsame | ⟨-, hopen⟩ := lookup_of_others hothers h
    · rw [hsame]
      simp [IsOpen]
    · exact hopen
  | some s =>
    obtain ⟨before, after, rfl, -⟩ := List.lookup_eq_some_iff.mp hlookup
    rw [List.foldlM_append] at h
    obtain ⟨found, -, hrest⟩ := both_of_bind h
    rw [List.foldlM_cons] at hrest
    obtain ⟨next, hstep, hafter⟩ := both_of_bind hrest
    cases next with
    | none => cases putInside_none hafter
    | some next =>
      have hnext : next.lookup (.text name) = some (n.held s) := by
        obtain ⟨hnone, -⟩ | ⟨es, way, last, v, -, hway, hvalue, rfl⟩ := putInside_cases hstep
        · rw [hown] at hnone
          cases hnone
        · rw [hown] at hway
          cases hway
          rw [putAt, (Value.certain_text name).lookup_put, Value.text_beq_text, beq_self_eq_true,
            if_pos rfl, hplain s v hvalue]
      have hothers : ∀ one ∈ after, way? n field one.1 ≠ some ([], name) := fun one hone hway => by
        rw [Entries.keys, List.map_append, List.map_cons, List.nodup_append] at hvars
        have hmem : one.1 ∈ after.map (·.1) := List.mem_map_of_mem hone
        exact (List.nodup_cons.mp hvars.2.1).1 (only_own hown hway ▸ hmem)
      obtain hsame | ⟨hopen, -⟩ := lookup_of_others hothers hafter
      · rw [hsame, hnext]
      · obtain ⟨entries, hmap⟩ := hopen _ hnext
        exact absurd hmap (n.held_ne_map s entries)

end

/-! ## Names in letters of any size -/

/-- Names of variables as they are compared: unless the size of letters matters, in small ones. -/
def IsFolded (n : Naming) (vars : Given) : Prop :=
  n.exact = false → ∀ one ∈ vars, ∀ c ∈ one.1.toList, Text.IsSettled c

theorem keys_given_nodup (n : Naming) (pairs : List (String × Option String)) :
    (Entries.keys (given n pairs)).Nodup :=
  (Entries.distinct_ofList _).imp fun h => ne_of_beq_false h

theorem isFolded_given (n : Naming) (pairs : List (String × Option String)) :
    IsFolded n (given n pairs) := by
  intro hexact one hone c hc
  have hname : one.1 ∈ Entries.keys (given n pairs) := List.mem_map_of_mem hone
  obtain ⟨pair, hpair, hfold⟩ := List.mem_map.mp (Entries.mem_keys_ofList hname)
  obtain ⟨⟨name, value⟩, -, rfl⟩ := List.mem_map.mp hpair
  have hlower : one.1 = Text.lower name := by
    simpa [Naming.fold, hexact] using hfold.symm
  rw [hlower, Text.lower, String.toList_ofList] at hc
  exact Text.isSettled_of_mem_lowerBehind c hc

/-- The variable around the program that is compared by a name: the last one that counts. -/
def inSurroundings? (n : Naming) (s : Surroundings) (name : String) : Option String :=
  ((s.environment.filter fun one => !(n.skipEmpty && one.2 == "")).reverse.find?
    fun one => name == n.fold one.1).map (·.2)

theorem lookup_map {α β : Type} (f : α → String) (g : α → β) (as : List α) (name : String) :
    (as.map fun a => (f a, g a)).lookup name = (as.find? fun a => name == f a).map g := by
  induction as with
  | nil => rfl
  | cons a as ih =>
    rw [List.map_cons, List.lookup_cons, List.find?_cons, ih]
    cases name == f a <;> rfl

theorem lookup_given (n : Naming) (s : Surroundings) (name : String) :
    (given n (s.environment.map fun (name, value) => (name, some value))).lookup name =
      (inSurroundings? n s name).map some := by
  rw [given, (Entries.certain_of_lawful name).lookup_ofList, List.filter_map, List.map_map,
    ← List.map_reverse]
  refine (lookup_map (fun one : String × String => n.fold one.1) (fun one => some one.2) _
    name).trans ?_
  rw [inSurroundings?, Option.map_map]
  rfl

theorem key_of_mem_putAt {way : List String} {last : String} {v : Value}
    {es : List (Value × Value)} {k : Value} (h : k ∈ Entries.keys (putAt way last v es)) :
    k ∈ Entries.keys es ∨ ∃ piece ∈ way ++ [last], k = .text piece := by
  cases way with
  | nil => exact (Entries.mem_keys_put h).imp_right fun heq => ⟨last, by simp, heq⟩
  | cons first way =>
    have hfirst : ∀ inner, k ∈ Entries.keys (Entries.put (.text first) (.map inner) es) →
        k ∈ Entries.keys es ∨ ∃ piece ∈ first :: way ++ [last], k = .text piece :=
      fun inner hk => (Entries.mem_keys_put hk).imp_right fun heq => ⟨first, by simp, heq⟩
    unfold putAt at h
    split at h
    · exact hfirst _ h
    · exact hfirst _ h
    · exact Or.inl h

section

variable {vars : Given} {fields : List (String × Shape)} {es : List (Value × Value)}

theorem key_of_inside (h : inside? room n vars field (.parts fields) = .ok (some es)) :
    ∀ k ∈ Entries.keys es, ∃ piece, k = .text piece ∧
      ∃ one ∈ vars, ∀ c ∈ piece.toList, c ∈ one.1.toList := by
  refine holds_inside (p := fun es => ∀ k ∈ Entries.keys es, ∃ piece, k = .text piece ∧
    ∃ one ∈ vars, ∀ c ∈ piece.toList, c ∈ one.1.toList)
    (fun one hone way last v es hway _ hes k hk => ?_) (by simp [Entries.keys])
    (inside?_eq room n vars field (.parts fields) ▸ h)
  obtain hk | ⟨piece, hpiece, rfl⟩ := key_of_mem_putAt hk
  · exact hes k hk
  · exact ⟨piece, rfl, one, hone, mem_of_mem_way hway piece hpiece⟩

/-- An entry under the name of the part that it is meant for. -/
def renamedEntry (fields : List (String × Shape)) (e : Value × Value) : Value × Value :=
  match e.1.text? with
  | some name =>
    match fields.find? fun part => Text.lower part.1 == Text.lower name with
    | some part => (.text part.1, e.2)
    | none => e
  | none => e

theorem renamed_parts (fields : List (String × Shape)) (es : List (Value × Value)) :
    renamed (.parts fields) es = Entries.ofList (es.map (renamedEntry fields)) := by
  unfold renamed
  dsimp only
  congr 2
  funext e
  unfold renamedEntry
  cases e.1.text? with
  | none => rfl
  | some name =>
    dsimp only
    cases fields.find? fun part => Text.lower part.1 == Text.lower name <;> rfl

/-- The names of the parts are words of ASCII in small letters. -/
def HasSmallNames (fields : List (String × Shape)) : Prop :=
  ∀ part ∈ fields, Text.lower part.1 = part.1 ∧ ∀ c ∈ part.1.toList, c.toNat < 128

theorem renamedEntry_of_settled (hfields : HasSmallNames fields) {name : String} {v : Value}
    (hname : ∀ c ∈ name.toList, Text.IsSettled c) :
    renamedEntry fields (.text name, v) = (.text name, v) := by
  unfold renamedEntry
  dsimp only [Value.text?]
  split
  · next part hpart =>
    obtain ⟨hsmall, hascii⟩ := hfields part (List.mem_of_find?_eq_some hpart)
    have hsame : (Text.lower part.1 == Text.lower name) = true := by
      simpa using List.find?_some hpart
    rw [hsmall, beq_iff_eq] at hsame
    rw [Text.lower_of_settled hname hascii hsame.symm]
  · rfl

/-- Names of parts that variables give are spelled like those of the parts. -/
theorem settled_inside (hvars : IsFolded n vars) (hfields : HasSmallNames fields)
    (h : inside? room n vars field (.parts fields) = .ok (some es)) :
    settled n (.parts fields) es = .map es := by
  unfold settled
  split
  · rfl
  · next hexact =>
    have hkeep : es.map (renamedEntry fields) = es.map id := List.map_congr_left fun e he => by
      obtain ⟨k, v⟩ := e
      obtain ⟨name, hk, one, hone, hchars⟩ := key_of_inside h k (List.mem_map_of_mem he)
      subst hk
      exact renamedEntry_of_settled hfields fun c hc =>
        hvars (by simpa using hexact) one hone c (hchars c hc)
    rw [renamed_parts, hkeep, List.map_id, Entries.ofList_of_distinct (sound_inside? h).distinct]

end

/-! ## What variables say about a setting -/

theorem parts_cases {fields : List (String × Shape)} (h : (field, .parts fields) ∈ sections) :
    (field = "search" ∧ fields = [("default_adapter", .plain), ("adapters", .named engineShape)]) ∨
      (field = "compiler" ∧ fields = [("group_hash_fields", .plain)]) ∨
      (field = "observability" ∧ fields = [("log_level", .plain), ("log_format", .plain)]) := by
  simpa [sections] using h

theorem smallNames_of_section {fields : List (String × Shape)}
    (h : (field, .parts fields) ∈ sections) : HasSmallNames fields := by
  have hfields : ∀ part ∈ fields,
      Text.lower part.1 = part.1 ∧ part.1.toList.all (·.toNat < 128) := by
    obtain ⟨-, rfl⟩ | ⟨-, rfl⟩ | ⟨-, rfl⟩ := parts_cases h <;> decide +kernel
  simpa [HasSmallNames] using hfields

theorem fold_of_small {name : String} (h : Text.lower name = name) : n.fold name = name := by
  unfold Naming.fold
  split
  · rfl
  · exact h

/-- The parts of sections that hold no others. -/
theorem plain_part_cases {fields : List (String × Shape)} {name : String}
    (hrow : (field, .parts fields) ∈ sections) (hname : (name, .plain) ∈ fields) :
    (field = "search" ∧ name = "default_adapter") ∨
      (field = "compiler" ∧ name = "group_hash_fields") ∨
      (field = "observability" ∧ name = "log_level") ∨
      (field = "observability" ∧ name = "log_format") := by
  obtain ⟨rfl, rfl⟩ | ⟨rfl, rfl⟩ | ⟨rfl, rfl⟩ := parts_cases hrow
  all_goals simpa using hname

/-- The way to a part without others leads to a place without others. -/
theorem follow?_plain {fields : List (String × Shape)} {name : String}
    (hrow : (field, .parts fields) ∈ sections) (hname : (name, .plain) ∈ fields) :
    ∃ t, Target.follow? n { shape := .parts fields } [name] = some t ∧
      t.shape.isComplex = false := by
  have hself := fold_of_small (n := n) (smallNames_of_section hrow _ hname).1
  refine ⟨{ shape := .plain }, ?_, rfl⟩
  show part? n name fields = some { shape := .plain }
  obtain ⟨rfl, rfl⟩ | ⟨rfl, rfl⟩ | ⟨rfl, rfl⟩ := parts_cases hrow
  · obtain rfl : name = "default_adapter" := by simpa using hname
    simp [part?, hself]
  · obtain rfl : name = "group_hash_fields" := by simpa using hname
    simp [part?, hself]
  · -- Whichever of the two is found first holds no others.
    obtain rfl | rfl : name = "log_level" ∨ name = "log_format" := by simpa using hname
    · simp [part?, hself]
    · by_cases hfirst : n.fold "log_level" = "log_format" ∨ n.nameOf "log_level" = "log_format"
      · simp [part?, hfirst]
      · simp [part?, hfirst, hself]

theorem held_of_valueAt? {t : Target} (ht : t.shape.isComplex = false) {s : Option String}
    {v : Value} (h : valueAt? room n (some t) s = .ok (some v)) : v = n.held s := by
  unfold valueAt? at h
  cases s with
  | none =>
    cases h
    rfl
  | some s =>
    dsimp only at h
    rw [ht, Bool.not_false, Bool.or_true, if_pos rfl] at h
    cases h
    rfl

section

variable {source : String} {vars : Given} {es : List (Value × Value)}
  (h : entries room n source vars = .ok es)
include h

/-- About a setting outside sections the variable with its name says everything. -/
theorem along?_plain (hrow : (field, .plain) ∈ sections) :
    (Value.map es).along? [.text field] =
      (vars.lookup (n.nameOf field)).join.map n.plainValue := by
  have hsection := (sections_of_entries h).2 _ hrow
  unfold section? at hsection
  dsimp only at hsection
  rw [Except.ok.injEq, Option.some.injEq] at hsection
  rw [hsection, Value.along?_one]

/-- About a setting in a section, unless there is a variable for the whole section, the variable
with its name says everything. -/
theorem along?_part {fields : List (String × Shape)} {name divider : String}
    (hvars : (Entries.keys vars).Nodup) (hfolded : IsFolded n vars)
    (hrow : (field, .parts fields) ∈ sections) (hname : (name, .plain) ∈ fields)
    (hdivider : n.divider = some divider) (hne : divider ≠ "")
    (huncut : ¬ divider.toList <:+: name.toList)
    (hwhole : (vars.lookup (n.nameOf field)).join = none)
    (hplain : ∀ entries, (Value.map es).along? [.text field, .text name] ≠ some (.map entries)) :
    (Value.map es).along? [.text field, .text name] =
      (vars.lookup (n.ownName field divider name)).map n.held := by
  have hsection := (sections_of_entries h).2 _ hrow
  unfold section? at hsection
  rw [hwhole] at hsection
  obtain ⟨found, hinside, hend⟩ := both_of_bind hsection
  cases found with
  | none => cases hend
  | some inner =>
    have hsettled := settled_inside hfolded (smallNames_of_section hrow) hinside
    have hfield : es.lookup (.text field) = if inner.isEmpty then none else some (.map inner) := by
      rw [← hsettled]
      exact (Option.some.inj (Except.ok.inj hend)).symm
    obtain ⟨t, ht, hshape⟩ := follow?_plain (n := n) hrow hname
    have hinner := lookup_inside hvars (way?_ownName hdivider hne huncut)
      (fun s v hvalue => held_of_valueAt? hshape (ht ▸ hvalue)) hinside
    have halong : (Value.map es).along? [.text field, .text name] = inner.lookup (.text name) := by
      show (es.lookup (.text field)).bind (Value.along? [.text name]) = _
      rw [hfield]
      cases inner with
      | nil => rfl
      | cons e inner => exact Value.along?_one ..
    rw [halong]
    cases hlookup : vars.lookup (n.ownName field divider name) with
    | some s =>
      rw [hlookup] at hinner
      exact hinner
    | none =>
      rw [hlookup] at hinner
      cases hw : inner.lookup (.text name) with
      | none => rfl
      | some w =>
        obtain ⟨entries, rfl⟩ := hinner w hw
        exact absurd (halong.trans hw) (hplain entries)

end

end Variables

end SearchQuery
