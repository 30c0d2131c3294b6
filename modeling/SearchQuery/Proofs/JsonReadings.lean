-- What follows the grammar of JSON is read, unless the reader stops at one of its limits. With
-- what the reader is known to accept, every text is JSON, is malformed, or is at a limit.
import SearchQuery.Proofs.JsonTexts

namespace SearchQuery.Json

/-! ## What follows the grammar is read -/

/-- The outcome of reading up to `rest`: it is reached, or reading stopped at a limit. -/
def Reaches (rest : List Char) : Except Stop (Value × List Char) → Prop
  | .ok (_, tail) => tail = rest
  | .error (.malformed ..) => False
  | .error _ => True

section

variable {cs rest : List Char}

theorem skip_to {c : Char} (hc : isBlank c = false) (h : Blanks cs (c :: rest)) :
    skip cs = c :: rest := by
  rw [h.skip_eq]
  exact List.dropWhile_cons_of_neg (by rw [hc]; exact Bool.false_ne_true)

theorem Reads.skip_eq {piece : Piece} {body : List Char} (h : Reads piece body rest)
    (hbody : Blanks cs body) : skip cs = body := by
  obtain ⟨c, tail, rfl, -, -, hc, -⟩ := h.front
  exact skip_to hc hbody

theorem Blanks.ends (h : Blanks cs rest) (hrest : Ends rest) : Ends cs := by
  obtain ⟨blanks, rfl, hblanks⟩ := h
  cases blanks with
  | nil => exact hrest
  | cons c blanks =>
    intro d hd
    cases hd
    exact .inl (hblanks c List.mem_cons_self)

theorem ends_cons {c : Char} (hc : c = ',' ∨ c = ']' ∨ c = '\x7d') : Ends (c :: rest) := by
  intro d hd
  cases hd
  exact .inr hc

theorem readValue_plain {fuel room : Nat} {c : Char}
    (hquote : c ≠ '"') (hbracket : c ≠ '[') (hbrace : c ≠ '\x7b') :
    readValue (fuel + 1) room (c :: cs) =
      match readWord? (c :: cs) with
      | some found => .ok found
      | none => readNumber (c :: cs) := by
  unfold readValue
  split
  · rename_i hhead
    cases hhead
    exact absurd rfl hquote
  · rename_i hhead
    cases hhead
    exact absurd rfl hbrace
  · rename_i hhead
    cases hhead
    exact absurd rfl hbracket
  · rfl

theorem readWord?_word {word : List Char} (hword : word ∈ words.map Prod.fst) :
    ∃ v, readWord? (word ++ rest) = some (v, rest) := by
  simp only [words, List.map_cons, List.map_nil, List.mem_cons, List.not_mem_nil, or_false]
    at hword
  rcases hword with rfl | rfl | rfl | rfl | rfl | rfl <;> exact ⟨_, rfl⟩

theorem readWord?_number (h : IsNumber cs rest) : readWord? cs = none := by
  obtain ⟨c, tail, rfl, -, hc⟩ := h.front
  cases hread : readWord? (c :: tail) with
  | none => rfl
  | some found =>
    obtain ⟨word, hword, hcs⟩ := readWord?_sound hread
    simp only [words, List.map_cons, List.map_nil, List.mem_cons, List.not_mem_nil, or_false]
      at hword
    rcases hc with hc | ⟨rfl, d, more, rfl, hd⟩
    · rcases hword with rfl | rfl | rfl | rfl | rfl | rfl <;> cases hcs <;> cases hc
    · rcases hword with rfl | rfl | rfl | rfl | rfl | rfl <;> cases hcs
      cases hd

theorem word_front {word : List Char} (hword : word ∈ words.map Prod.fst) :
    ∃ c tail, word = c :: tail ∧ c ≠ '"' ∧ c ≠ '[' ∧ c ≠ '\x7b' := by
  simp only [words, List.map_cons, List.map_nil, List.mem_cons, List.not_mem_nil, or_false]
    at hword
  rcases hword with rfl | rfl | rfl | rfl | rfl | rfl <;> exact ⟨_, _, rfl, by decide⟩

theorem reaches_word {word : List Char} (hword : word ∈ words.map Prod.fst) (fuel room : Nat) :
    Reaches rest (readValue (fuel + 1) room (word ++ rest)) := by
  obtain ⟨v, hread⟩ : ∃ v, readWord? (word ++ rest) = some (v, rest) := readWord?_word hword
  obtain ⟨c, tail, rfl, hquote, hbracket, hbrace⟩ := word_front hword
  rw [List.cons_append] at hread ⊢
  rw [readValue_plain hquote hbracket hbrace, hread]
  rfl

theorem reaches_number (h : IsNumber cs rest) (hrest : Ends rest) (fuel room : Nat) :
    Reaches rest (readValue (fuel + 1) room cs) := by
  have hword := readWord?_number h
  obtain ⟨hwhole, hbehind⟩ := behindNumber_eq h hrest
  obtain ⟨c, tail, rfl, -, hc⟩ := h.front
  rw [readValue_plain, hword]
  · obtain ⟨hnone, -⟩ | ⟨-, v, -, hread⟩ | ⟨-, hread⟩ := readNumber_cases (c :: tail)
    · exact absurd hnone hwhole
    · rw [hread]
      exact hbehind
    · rw [hread]
      trivial
  all_goals
    rintro rfl
    rcases hc with hc | ⟨hc, -⟩ <;> cases hc

theorem Reaches.bind {tail : List Char} {outcome : Except Stop (Value × List Char)}
    {further : Value × List Char → Except Stop (Value × List Char)} (h : Reaches tail outcome)
    (hfurther : ∀ v, Reaches rest (further (v, tail))) : Reaches rest (outcome >>= further) := by
  match outcome, h with
  | .ok (v, _), rfl => exact hfurther v
  | .error (.tooManyDigits _), _ | .error (.tooDeep _), _ => trivial

/-- The reading of the entries of a map behind one of them. -/
def behindEntry (fuel room : Nat) (done : List (Value × Value)) (cs : List Char) :
    Except Stop (Value × List Char) :=
  match skip cs with
  | '\x7d' :: rest => .ok (.map done, rest)
  | ',' :: rest => readEntries fuel room done (skip rest)
  | rest => .error (.malformed .commaExpected rest.length)

/-- That a piece is read, with fuel for each character that it takes. -/
def IsReached : Piece → List Char → List Char → Prop
  | .value, cs, rest => ∀ fuel room, cs.length ≤ fuel + rest.length → Ends rest →
    Reaches rest (readValue fuel room cs)
  | .items, cs, rest => ∀ fuel room done, cs.length ≤ fuel + rest.length →
    Reaches rest (readItems fuel room done cs)
  | .entries, cs, rest => ∀ fuel room done, cs.length ≤ fuel + rest.length →
    Reaches rest (readEntries fuel room done cs)
  | .entry, cs, rest => ∃ key, ∀ fuel room done, cs.length ≤ fuel + 1 + rest.length → Ends rest →
    ∃ outcome, Reaches rest outcome ∧
      readEntries (fuel + 1) room done cs = outcome >>= fun (v, tail) =>
        behindEntry fuel room (Entries.put (.text key) v done) tail

/-- What a piece takes needs at least one step. -/
theorem Reads.fuel {piece : Piece} (h : Reads piece cs rest) {fuel : Nat}
    (hfuel : cs.length ≤ fuel + rest.length) : ∃ less, fuel = less + 1 := by
  have := h.length_lt
  exact ⟨fuel - 1, by omega⟩

section

variable {fuel room : Nat}

theorem readValue_quote :
    readValue (fuel + 1) room ('"' :: cs) =
      readText (cs.length + 1) [] cs >>= fun (text, tail) =>
        .ok (.text (String.ofList text), tail) := rfl

theorem readValue_bracket :
    readValue (fuel + 1) room ('[' :: cs) =
      match room, skip cs with
      | 0, _ => .error (.tooDeep .list)
      | _, ']' :: tail => .ok (.list [], tail)
      | room + 1, body => readItems fuel room [] body := rfl

theorem readValue_brace :
    readValue (fuel + 1) room ('\x7b' :: cs) =
      match room, skip cs with
      | 0, _ => .error (.tooDeep .map)
      | _, '\x7d' :: tail => .ok (.map [], tail)
      | room + 1, body => readEntries fuel room [] body := rfl

theorem readEntries_quote {done : List (Value × Value)} :
    readEntries (fuel + 1) room done ('"' :: cs) =
      readText (cs.length + 1) [] cs >>= fun (key, afterKey) =>
        match skip afterKey with
        | ':' :: body => readValue fuel room (skip body) >>= fun (v, tail) =>
          behindEntry fuel room (Entries.put (.text (String.ofList key)) v done) tail
        | other => .error (.malformed .colonExpected other.length) := rfl

theorem readValue_list {c : Char} {tail : List Char} (hskip : skip cs = c :: tail)
    (hc : c ≠ ']') :
    readValue (fuel + 1) (room + 1) ('[' :: cs) = readItems fuel room [] (c :: tail) := by
  rw [readValue_bracket, hskip]
  split
  · rename_i hroom
    cases hroom
  · rename_i hclosing _
    cases hclosing
    exact absurd rfl hc
  · rename_i hroom _
    rw [Nat.succ.inj hroom]

theorem readValue_map {c : Char} {tail : List Char} (hskip : skip cs = c :: tail)
    (hc : c ≠ '\x7d') :
    readValue (fuel + 1) (room + 1) ('\x7b' :: cs) = readEntries fuel room [] (c :: tail) := by
  rw [readValue_brace, hskip]
  split
  · rename_i hroom
    cases hroom
  · rename_i hclosing _
    cases hclosing
    exact absurd rfl hc
  · rename_i hroom _
    rw [Nat.succ.inj hroom]

end

/-! Each way to put a piece together keeps that it is read. -/

namespace IsReached

variable {body tail next : List Char}

theorem list (h : Blanks cs body) (hitems : Reads .items body rest)
    (ih : IsReached .items body rest) : IsReached .value ('[' :: cs) rest := by
  intro fuel room hfuel _
  obtain ⟨fuel, rfl⟩ := (Reads.list h hitems).fuel hfuel
  cases room with
  | zero => trivial
  | succ room =>
    have hlength := h.suffix.length_le
    rw [List.length_cons] at hfuel
    have hskip := hitems.skip_eq h
    obtain ⟨c, tail, rfl, -, -, -, hc, -⟩ := hitems.front
    rw [readValue_list hskip hc]
    exact ih fuel room [] (by omega)

theorem map (h : Blanks cs body) (hentries : Reads .entries body rest)
    (ih : IsReached .entries body rest) : IsReached .value ('\x7b' :: cs) rest := by
  intro fuel room hfuel _
  obtain ⟨fuel, rfl⟩ := (Reads.map h hentries).fuel hfuel
  cases room with
  | zero => trivial
  | succ room =>
    have hlength := h.suffix.length_le
    rw [List.length_cons] at hfuel
    have hskip := hentries.skip_eq h
    obtain ⟨c, tail, rfl, -, -, -, -, hc⟩ := hentries.front
    rw [readValue_map hskip hc]
    exact ih fuel room [] (by omega)

theorem lastItem (hvalue : Reads .value cs tail) (h : Blanks tail (']' :: rest))
    (ih : IsReached .value cs tail) : IsReached .items cs rest := by
  intro fuel room done hfuel
  obtain ⟨fuel, rfl⟩ := (Reads.lastItem hvalue h).fuel hfuel
  have hlength := h.suffix.length_le
  rw [List.length_cons] at hlength
  unfold readItems
  refine (ih fuel room (by omega) (h.ends (ends_cons (by decide)))).bind fun v => ?_
  dsimp only
  rw [skip_to (by decide) h]
  rfl

theorem nextItem (hvalue : Reads .value cs tail) (h : Blanks tail (',' :: next))
    (hnext : Blanks next body) (hitems : Reads .items body rest)
    (ih : IsReached .value cs tail) (ihrest : IsReached .items body rest) :
    IsReached .items cs rest := by
  intro fuel room done hfuel
  obtain ⟨fuel, rfl⟩ := (Reads.nextItem hvalue h hnext hitems).fuel hfuel
  have hlength := h.suffix.length_le
  rw [List.length_cons] at hlength
  have hbody := hnext.suffix.length_le
  have htail := hvalue.length_lt
  have hrest := hitems.length_lt
  unfold readItems
  refine (ih fuel room (by omega) (h.ends (ends_cons (by decide)))).bind fun v => ?_
  dsimp only
  rw [skip_to (by decide) h]
  show Reaches _ (readItems fuel room _ (skip _))
  rw [hitems.skip_eq hnext]
  exact ihrest fuel room _ (by omega)

theorem entry (htext : IsText cs tail) (h : Blanks tail (':' :: next))
    (hnext : Blanks next body) (hvalue : Reads .value body rest)
    (ih : IsReached .value body rest) : IsReached .entry ('"' :: cs) rest := by
  obtain ⟨key, hread⟩ := readText_complete htext (_ + 1) []
  refine ⟨String.ofList key, fun fuel room done hfuel hrest => ?_⟩
  have hlength := h.suffix.length_le
  rw [List.length_cons] at hlength hfuel
  have hbody := hnext.suffix.length_le
  have htail := htext.suffix.length_le
  refine ⟨_, ih fuel room (by omega) hrest, ?_⟩
  rw [readEntries_quote, hread]
  show (match skip _ with
    | ':' :: body => readValue fuel room (skip body) >>= _
    | other => _) = _
  rw [skip_to (by decide) h]
  show readValue fuel room (skip _) >>= _ = _
  rw [hvalue.skip_eq hnext]

theorem lastEntry (hentry : Reads .entry cs tail) (h : Blanks tail ('\x7d' :: rest))
    (ih : IsReached .entry cs tail) : IsReached .entries cs rest := by
  intro fuel room done hfuel
  obtain ⟨fuel, rfl⟩ := (Reads.lastEntry hentry h).fuel hfuel
  have hlength := h.suffix.length_le
  rw [List.length_cons] at hlength
  obtain ⟨key, hread⟩ := ih
  obtain ⟨outcome, houtcome, hread⟩ :=
    hread fuel room done (by omega) (h.ends (ends_cons (by decide)))
  rw [hread]
  refine houtcome.bind fun v => ?_
  unfold behindEntry
  dsimp only
  rw [skip_to (by decide) h]
  rfl

theorem nextEntry (hentry : Reads .entry cs tail) (h : Blanks tail (',' :: next))
    (hnext : Blanks next body) (hentries : Reads .entries body rest)
    (ih : IsReached .entry cs tail) (ihrest : IsReached .entries body rest) :
    IsReached .entries cs rest := by
  intro fuel room done hfuel
  obtain ⟨fuel, rfl⟩ := (Reads.nextEntry hentry h hnext hentries).fuel hfuel
  have hlength := h.suffix.length_le
  rw [List.length_cons] at hlength
  have hbody := hnext.suffix.length_le
  have htail := hentry.length_lt
  have hrest := hentries.length_lt
  obtain ⟨key, hread⟩ := ih
  obtain ⟨outcome, houtcome, hread⟩ :=
    hread fuel room done (by omega) (h.ends (ends_cons (by decide)))
  rw [hread]
  refine houtcome.bind fun v => ?_
  unfold behindEntry
  dsimp only
  rw [skip_to (by decide) h]
  show Reaches _ (readEntries fuel room _ (skip _))
  rw [hentries.skip_eq hnext]
  exact ihrest fuel room _ (by omega)

end IsReached

/-- Every piece that stands somewhere is read there. -/
theorem Reads.isReached {piece : Piece} (h : Reads piece cs rest) : IsReached piece cs rest := by
  induction h with
  | word hword =>
    intro fuel room hfuel _
    obtain ⟨fuel, rfl⟩ := (Reads.word hword).fuel hfuel
    exact reaches_word hword fuel room
  | number h =>
    intro fuel room hfuel hrest
    obtain ⟨fuel, rfl⟩ := (Reads.number h).fuel hfuel
    exact reaches_number h hrest fuel room
  | text h =>
    intro fuel room hfuel _
    obtain ⟨fuel, rfl⟩ := (Reads.text h).fuel hfuel
    obtain ⟨out, hread⟩ := readText_complete h (_ + 1) []
    rw [readValue_quote, hread]
    rfl
  | emptyList h =>
    intro fuel room hfuel _
    obtain ⟨fuel, rfl⟩ := (Reads.emptyList h).fuel hfuel
    rw [readValue_bracket, skip_to (by decide) h]
    cases room <;> trivial
  | emptyMap h =>
    intro fuel room hfuel _
    obtain ⟨fuel, rfl⟩ := (Reads.emptyMap h).fuel hfuel
    rw [readValue_brace, skip_to (by decide) h]
    cases room <;> trivial
  | list h hitems ih => exact .list h hitems ih
  | map h hentries ih => exact .map h hentries ih
  | lastItem hvalue h ih => exact .lastItem hvalue h ih
  | nextItem hvalue h hnext hitems ih ihrest => exact .nextItem hvalue h hnext hitems ih ihrest
  | entry htext h hnext hvalue ih => exact .entry htext h hnext hvalue ih
  | lastEntry hentry h ih => exact .lastEntry hentry h ih
  | nextEntry hentry h hnext hentries ih ihrest =>
    exact .nextEntry hentry h hnext hentries ih ihrest

end

/-! ## Whole texts -/

/-- A text at which the reader stops although it has met nothing that is no JSON. -/
def AtLimit (room : Nat) (s : String) : Prop :=
  (∃ n, read room s = .error (.tooManyDigits n)) ∨
    ∃ inside, read room s = .error (.tooDeep inside)

/-- What the value of a whole text is read from. -/
def outcomeOf (room : Nat) (s : String) : Except Stop (Value × List Char) :=
  readValue (2 * s.toList.length + 2) room (skip s.toList)

section

variable {room : Nat} {s : String}

theorem fair_outcomeOf (room : Nat) (s : String) :
    Fair .value room (skip s.toList) (outcomeOf room s) :=
  (fairReaders _).value room _

theorem reaches_outcomeOf (room : Nat) (h : IsJson s) :
    ∃ tail, Blanks tail [] ∧ Reaches tail (outcomeOf room s) := by
  obtain ⟨body, tail, hbody, hvalue, htail⟩ := h
  refine ⟨tail, htail, ?_⟩
  have hlength := hbody.suffix.length_le
  unfold outcomeOf
  rw [hvalue.skip_eq hbody]
  exact hvalue.isReached _ room (by omega) (htail.ends fun c hc => nomatch hc)

theorem unmarked_of_isJson (h : IsJson s) : s.toList.head? ≠ some '\uFEFF' := by
  obtain ⟨body, tail, ⟨blanks, hbody, hblanks⟩, hvalue, -⟩ := h
  obtain ⟨c, more, rfl, -, hc, -⟩ := hvalue.front
  rw [hbody]
  cases blanks with
  | nil => exact fun h => hc (Option.some.inj h)
  | cons d blanks =>
    intro h
    have hd := hblanks d List.mem_cons_self
    rw [Option.some.inj h] at hd
    cases hd

theorem read_unmarked (room : Nat) (h : s.toList.head? ≠ some '\uFEFF') :
    read room s =
      match outcomeOf room s with
      | .error (.malformed problem left) => .error (faultAt s.toList problem left)
      | .error (.tooManyDigits n) => .error (.tooManyDigits (some n))
      | .error (.tooDeep inside) => .error (.tooDeep inside)
      | .ok (value, tail) =>
        match skip tail with
        | [] => .ok value
        | rest => .error (faultAt s.toList .extraData rest.length) := by
  unfold read
  exact if_neg (by rw [beq_iff_eq]; exact h)

theorem read_marked (h : s.toList.head? = some '\uFEFF') :
    read room s = .error (faultAt s.toList .byteOrderMark s.toList.length) := by
  unfold read
  exact if_pos (by rw [beq_iff_eq]; exact h)

/-- Reading a text comes to a value if it is JSON and to the fault of a malformed text if it is
none, as long as it is not at a limit. -/
theorem read_cases (room : Nat) (s : String) :
    AtLimit room s ∨ (IsJson s ∧ ∃ v, read room s = .ok v) ∨
      (¬ IsJson s ∧ ∃ problem left, read room s = .error (faultAt s.toList problem left)) := by
  by_cases hmark : s.toList.head? = some '\uFEFF'
  · exact .inr (.inr ⟨fun h => unmarked_of_isJson h hmark, _, _, read_marked hmark⟩)
  · have hread := read_unmarked room hmark
    have hfair := fair_outcomeOf room s
    have hreaches : IsJson s → _ := reaches_outcomeOf room
    generalize outcomeOf room s = outcome at hread hfair hreaches
    match outcome with
    | .error (.malformed problem left) =>
      refine .inr (.inr ⟨fun h => ?_, _, _, hread⟩)
      obtain ⟨tail, -, hfalse⟩ := hreaches h
      exact hfalse
    | .error (.tooManyDigits n) => exact .inl (.inl ⟨_, hread⟩)
    | .error (.tooDeep inside) => exact .inl (.inr ⟨_, hread⟩)
    | .ok (v, tail) =>
      dsimp only at hread
      cases hskip : skip tail with
      | nil =>
        rw [hskip] at hread
        exact .inr (.inl ⟨⟨_, tail, blanks_skip _, hfair, blanks_of_skip hskip⟩, v, hread⟩)
      | cons c rest =>
        rw [hskip] at hread
        refine .inr (.inr ⟨fun h => ?_, _, _, hread⟩)
        obtain ⟨_, hblanks, rfl⟩ := hreaches h
        rw [hblanks.skip_eq] at hskip
        cases hskip

theorem not_atLimit_of_ok {v : Value} (h : read room s = .ok v) : ¬ AtLimit room s := by
  rintro (⟨n, hlimit⟩ | ⟨inside, hlimit⟩) <;> cases h.symm.trans hlimit

theorem not_atLimit_of_malformed {problem : JsonProblem} {left : Nat}
    (h : read room s = .error (faultAt s.toList problem left)) : ¬ AtLimit room s := by
  rintro (⟨n, hlimit⟩ | ⟨inside, hlimit⟩) <;> cases h.symm.trans hlimit

/-- Only a text with very many digits, or with very many lists and maps, is at a limit. -/
theorem long_of_atLimit (h : AtLimit room s) :
    Decimal.maxDigits < s.toList.countP Char.isDigit ∨
      room < s.toList.countP isOpening := by
  by_cases hmark : s.toList.head? = some '\uFEFF'
  · exact absurd h (not_atLimit_of_malformed (read_marked hmark))
  · have hread := read_unmarked room hmark
    have hfair := fair_outcomeOf room s
    have hcount (p : Char → Bool) : (skip s.toList).countP p ≤ s.toList.countP p :=
      (skip_suffix s.toList).sublist.countP_le
    generalize outcomeOf room s = outcome at hread hfair
    match outcome with
    | .error (.malformed problem left) => exact absurd h (not_atLimit_of_malformed hread)
    | .error (.tooManyDigits n) => exact .inl (Nat.lt_of_lt_of_le hfair (hcount _))
    | .error (.tooDeep inside) => exact .inr (Nat.lt_of_lt_of_le hfair (hcount _))
    | .ok (v, tail) =>
      dsimp only at hread
      split at hread
      · exact absurd h (not_atLimit_of_ok hread)
      · exact absurd h (not_atLimit_of_malformed hread)

/-- Lists that are opened and never closed end at the limit, if there is one too many, and else
where a value is missing. -/
theorem readValue_openings (n : Nat) {fuel : Nat} (room : Nat) (hfuel : 2 * n < fuel) :
    readValue fuel room (List.replicate n '[') =
      .error (if room < n then .tooDeep .list else .malformed .valueExpected 0) := by
  induction n generalizing fuel room with
  | zero =>
    obtain ⟨fuel, rfl⟩ : ∃ less, fuel = less + 1 := ⟨fuel - 1, by omega⟩
    rw [if_neg (Nat.not_lt_zero room)]
    rfl
  | succ n ih =>
    obtain ⟨fuel, rfl⟩ : ∃ less, fuel = less + 2 := ⟨fuel - 2, by omega⟩
    have hskip : skip (List.replicate n '[') = List.replicate n '[' := by cases n <;> rfl
    rw [List.replicate_succ, readValue_bracket, hskip]
    cases room with
    | zero => rw [if_pos (Nat.zero_lt_succ n)]
    | succ room =>
      have hitems : readItems (fuel + 1) room [] (List.replicate n '[') =
          .error (if room < n then .tooDeep .list else .malformed .valueExpected 0) := by
        unfold readItems
        rw [ih room (by omega)]
        rfl
      simp only [Nat.add_lt_add_iff_right]
      rw [← hitems]
      cases n <;> rfl

/-- So the reader never comes to know that there are too many of them. -/
theorem openings_atLimit {n : Nat} (h : room < n) :
    ¬ IsJson (String.ofList (List.replicate n '[')) ∧
      AtLimit room (String.ofList (List.replicate n '[')) := by
  have hskip : skip (List.replicate n '[') = List.replicate n '[' := by cases n <;> rfl
  refine ⟨fun hjson => ?_, .inr ⟨.list, ?_⟩⟩
  · obtain ⟨body, tail, hbody, hvalue, htail⟩ := hjson
    rw [String.toList_ofList] at hbody
    have hsame := hvalue.skip_eq hbody
    rw [hskip] at hsame
    subst hsame
    have hlength : (List.replicate n '[').length = n := List.length_replicate
    have hreached := hvalue.isReached (2 * n + 1) n (by omega) (htail.ends fun c hc => nomatch hc)
    rw [readValue_openings n n (by omega), if_neg (Nat.lt_irrefl n)] at hreached
    exact hreached
  · have hread := read_unmarked room (s := String.ofList (List.replicate n '[')) (by
      rw [String.toList_ofList]
      cases n <;> simp [List.replicate_succ])
    have houtcome : outcomeOf room (String.ofList (List.replicate n '[')) =
        .error (.tooDeep .list) := by
      unfold outcomeOf
      rw [String.toList_ofList, hskip, readValue_openings n _ (by simp), if_pos h]
    rw [hread, houtcome]

end

end SearchQuery.Json
