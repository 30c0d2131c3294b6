-- Reading order texts. A part between commas is a column with a direction behind it, or a column
-- as a whole, and the names of columns are well formed. Only a direction with a long s in it,
-- which counts as one when the word is looked for and as none when it is read, is a fault.
import Mathlib.Data.List.TakeWhile
import SearchQuery.Proofs.SortTexts
import SearchQuery.Proofs.StoredDocuments

namespace SearchQuery

namespace Text

/-! ## Pieces and their ends -/

theorem not_mem_of_mem_splitAll {mark : Char} {cs piece : List Char}
    (h : piece ∈ splitAll mark cs) : mark ∉ piece := by
  induction cs generalizing piece with
  | nil => simp_all [splitAll]
  | cons c cs ih =>
    rw [splitAll] at h
    by_cases hc : c = mark
    · rw [if_pos (by simpa using hc), List.mem_cons] at h
      obtain rfl | hpiece := h
      · exact List.not_mem_nil
      · exact ih hpiece
    · rw [if_neg (by simpa using hc)] at h
      have hother : mark ≠ c := fun heq => hc heq.symm
      cases hpieces : splitAll mark cs with
      | nil => simp_all
      | cons first pieces =>
        rw [hpieces] at h ih
        obtain rfl | hpiece := List.mem_cons.mp h
        · simpa [hother] using ih List.mem_cons_self
        · exact ih (List.mem_cons_of_mem _ hpiece)

theorem head?_dropWhile {p : Char → Bool} (cs : List Char) :
    ∀ c ∈ (cs.dropWhile p).head?, p c = false := by
  intro c hc
  have hstop := List.head?_dropWhile_not p cs
  rw [Option.mem_def.mp hc] at hstop
  exact hstop

theorem trimmed_trimBy (cs : List Char) : Trimmed (trimBy isBlank cs) := by
  constructor
  · intro c hc
    obtain ⟨behind, hbehind⟩ := List.dropWhile_suffix (l := (cs.dropWhile isBlank).reverse) isBlank
    have hfront : cs.dropWhile isBlank = trimBy isBlank cs ++ behind.reverse := by
      rw [trimBy, ← List.reverse_append, hbehind, List.reverse_reverse]
    refine head?_dropWhile cs c ?_
    rw [hfront, List.head?_append, Option.mem_def.mp hc]
    rfl
  · rw [trimBy, List.getLast?_reverse]
    exact head?_dropWhile _

theorem splitAll_of_whole {mark : Char} {cs : List Char} (h : mark ∉ cs) :
    splitAll mark cs = [cs] := by
  rw [splitAll_eq_splitOn, List.splitOn_eq_singleton h]

/-- Blanks around a text are what is trimmed off it. -/
theorem trimBy_around {front part back : List Char} (hfront : ∀ c ∈ front, isBlank c = true)
    (hpart : Trimmed part) (hsome : part ≠ []) (hback : ∀ c ∈ back, isBlank c = true) :
    trimBy isBlank (front ++ part ++ back) = part := by
  have hkept : (part ++ back).dropWhile isBlank = part ++ back := by
    refine dropWhile_of_head fun c hc => hpart.first c ?_
    rwa [List.head?_append_of_ne_nil _ hsome] at hc
  have hlast : ∀ c ∈ part.reverse.head?, isBlank c = false := by
    rw [List.head?_reverse]
    exact hpart.last
  have hblanks : ∀ c ∈ back.reverse, isBlank c = true := fun c hc =>
    hback c (List.mem_reverse.mp hc)
  rw [trimBy, List.append_assoc, List.dropWhile_append_of_pos hfront, hkept, List.reverse_append,
    List.dropWhile_append_of_pos hblanks, dropWhile_of_head hlast, List.reverse_reverse]

theorem trimBy_parts (cs : List Char) :
    ∃ front back, cs = front ++ trimBy isBlank cs ++ back ∧ (∀ c ∈ front, isBlank c = true) ∧
      ∀ c ∈ back, isBlank c = true := by
  let rest := (cs.dropWhile isBlank).reverse
  refine ⟨cs.takeWhile isBlank, (rest.takeWhile isBlank).reverse, ?_, ?_, ?_⟩
  · have hrest : trimBy isBlank cs ++ (rest.takeWhile isBlank).reverse = cs.dropWhile isBlank := by
      rw [trimBy, ← List.reverse_append, List.takeWhile_append_dropWhile, List.reverse_reverse]
    rw [List.append_assoc, hrest, List.takeWhile_append_dropWhile]
  · exact List.all_eq_true.mp List.all_takeWhile
  · exact fun c hc => List.all_eq_true.mp List.all_takeWhile c (List.mem_reverse.mp hc)

theorem mem_of_mem_trimBy {p : Char → Bool} {cs : List Char} {c : Char} (h : c ∈ trimBy p cs) :
    c ∈ cs := by
  rw [trimBy, List.mem_reverse] at h
  have hback : c ∈ (cs.dropWhile p).reverse := (List.dropWhile_sublist _).subset h
  exact (List.dropWhile_sublist _).subset (List.mem_reverse.mp hback)

/-- A text is what is before its last word, the blanks behind that, and the word. -/
theorem lastWord_parts (cs : List Char) :
    ∃ gap, cs = (lastWord cs).1 ++ gap ++ (lastWord cs).2 ∧ (∀ c ∈ gap, isBlank c = true) ∧
      ((lastWord cs).1 ≠ [] → gap ≠ []) := by
  let rest := cs.reverse.dropWhile (!isBlank ·)
  refine ⟨(rest.takeWhile isBlank).reverse, ?_, ?_, ?_⟩
  · have hrest : rest.takeWhile isBlank ++ rest.dropWhile isBlank = rest :=
      List.takeWhile_append_dropWhile
    have hall : cs.reverse.takeWhile (!isBlank ·) ++ rest = cs.reverse :=
      List.takeWhile_append_dropWhile
    show cs = (rest.dropWhile isBlank).reverse ++ (rest.takeWhile isBlank).reverse ++
      (cs.reverse.takeWhile (!isBlank ·)).reverse
    rw [← List.reverse_append, hrest, ← List.reverse_append, hall, List.reverse_reverse]
  · intro c hc
    exact List.all_eq_true.mp List.all_takeWhile c (List.mem_reverse.mp hc)
  · intro hsome hnone
    have hkept : (rest.dropWhile isBlank).reverse ≠ [] := hsome
    cases hcons : rest with
    | nil => simp [hcons] at hkept
    | cons c more =>
      have hstop : c ∈ (cs.reverse.dropWhile (!isBlank ·)).head? := by
        show c ∈ rest.head?
        simp [hcons]
      have hblank : isBlank c = true := by simpa using head?_dropWhile cs.reverse c hstop
      simp [hcons, List.takeWhile_cons_of_pos hblank] at hnone

theorem last_before_lastWord (cs : List Char) :
    ∀ c ∈ (lastWord cs).1.getLast?, isBlank c = false := by
  rw [lastWord, List.getLast?_reverse]
  exact head?_dropWhile _

end Text

/-! ## Words for directions -/

theorem foldedLetter_blank {c : Char} (h : Text.isBlank c = true) : foldedLetter c = c := by
  have hlong : c ≠ 'ſ' := by
    rintro rfl
    revert h
    decide
  have hsmall : ¬ (c.val ≥ 'A'.val ∧ c.val ≤ 'Z'.val) := by
    rintro ⟨hfirst, hlast⟩
    have hfirst : 65 ≤ c.toNat := hfirst
    have hlast : c.toNat ≤ 90 := hlast
    simp only [Text.isBlank, Bool.or_eq_true, Bool.and_eq_true, decide_eq_true_eq, beq_iff_eq] at h
    omega
  rw [foldedLetter, if_neg (by simpa using hlong)]
  exact dif_neg hsmall

theorem isDirectionWord_iff (word : List Char) :
    isDirectionWord word = true ↔ ∃ d : Direction, word.map foldedLetter = d.name.toList := by
  simp only [isDirectionWord, Bool.or_eq_true, beq_iff_eq]
  constructor
  · rintro (h | h)
    · exact ⟨.ascending, h⟩
    · exact ⟨.descending, h⟩
  · rintro ⟨d, h⟩
    cases d with
    | ascending => exact Or.inl h
    | descending => exact Or.inr h

/-- Only for a long s it matters which small letters are meant. -/
theorem foldedLetters_of_short {word : List Char} (h : 'ſ' ∉ word) :
    word.map foldedLetter = word.map Char.toLower := by
  refine List.map_congr_left fun c hc => ?_
  have hother : c ≠ 'ſ' := fun heq => h (heq ▸ hc)
  rw [foldedLetter, if_neg (by simpa using hother)]

theorem directionOfWord_of_small {word : List Char} {d : Direction}
    (h : word.map Char.toLower = d.name.toList) : directionOfWord word = .ok d := by
  rw [directionOfWord, h]
  cases d <;> rfl

section

variable {word : List Char} (h : isDirectionWord word = true)
include h

theorem letters_of_isDirectionWord : ∀ c ∈ word, Text.isBlank c = false := by
  intro c hc
  obtain ⟨d, hd⟩ := (isDirectionWord_iff word).mp h
  rw [Bool.eq_false_iff]
  intro hblank
  have hletter : c ∈ d.name.toList := by
    rw [← hd, ← foldedLetter_blank hblank]
    exact List.mem_map_of_mem hc
  simp [d.letters_name c hletter] at hblank

/-- A direction word without a long s is read as its direction. -/
theorem directionOfWord_of_short (hshort : 'ſ' ∉ word) :
    ∃ d : Direction, word.map Char.toLower = d.name.toList ∧ directionOfWord word = .ok d := by
  obtain ⟨d, hd⟩ := (isDirectionWord_iff word).mp h
  rw [foldedLetters_of_short hshort] at hd
  exact ⟨d, hd, directionOfWord_of_small hd⟩

end

/-- A word with a long s in it is no direction: the long s has no small form of its own. -/
theorem directionOfWord_of_long {word : List Char} (h : 'ſ' ∈ word) :
    directionOfWord word = .error (.unknownDirection (String.ofList (word.map Char.toLower))) := by
  have hlong : 'ſ' ∈ word.map Char.toLower := List.mem_map.mpr ⟨'ſ', h, rfl⟩
  have hapart (small : List Char) (hsmall : 'ſ' ∉ small) :
      (word.map Char.toLower == small) = false := by
    rw [beq_eq_false_iff_ne]
    rintro rfl
    exact hsmall hlong
  rw [directionOfWord, hapart _ (by decide), hapart _ (by decide)]
  rfl

/-- A word whose small letters are those of a direction has no long s in it. -/
theorem isDirectionWord_of_small {word : List Char} {d : Direction}
    (h : word.map Char.toLower = d.name.toList) : isDirectionWord word = true := by
  have hshort : 'ſ' ∉ word := by
    intro hlong
    have hsmall : 'ſ' ∈ d.name.toList := h ▸ List.mem_map.mpr ⟨'ſ', hlong, rfl⟩
    revert hsmall
    cases d <;> decide
  exact (isDirectionWord_iff word).mpr ⟨d, (foldedLetters_of_short hshort).trans h⟩

/-! ## Parts of an order text -/

/-- The part is a column on one line, blanks, and a word. -/
structure Parted (part column word : List Char) : Prop where
  nonempty : column ≠ []
  trimmed : Text.Trimmed column
  oneLine : '\n' ∉ column
  apart : ∃ gap ≠ [], (∀ c ∈ gap, Text.isBlank c = true) ∧ part = column ++ gap ++ word

/-- The part ends with a direction word that has a long s in it. -/
structure Misspelt (part word : List Char) : Prop where
  behind : ∃ column, Parted part column word
  direction : isDirectionWord word = true
  long : 'ſ' ∈ word

/-- What a part is read as: a column with the direction in words behind it, or, where no direction
word is behind a column, the whole part, ascending. -/
inductive ReadAs (part : List Char) : String × Direction → Prop
  | directed {column word : List Char} {d : Direction} (parted : Parted part column word)
      (spelt : word.map Char.toLower = d.name.toList) : ReadAs part (String.ofList column, d)
  | whole (plain : ∀ column word, Parted part column word → isDirectionWord word = false) :
      ReadAs part (String.ofList part, .ascending)

section

variable {part : List Char}

theorem Misspelt.mem {word : List Char} (h : Misspelt part word) : 'ſ' ∈ part := by
  obtain ⟨⟨column, -, -, -, gap, -, -, rfl⟩, -, hlong⟩ := h
  exact List.mem_append_right _ hlong

theorem Parted.lastWord_eq {column word : List Char} (h : Parted part column word)
    (hword : isDirectionWord word = true) : Text.lastWord part = (column, word) := by
  obtain ⟨-, htrimmed, -, gap, hsome, hgap, rfl⟩ := h
  exact Text.lastWord_append htrimmed hsome hgap (letters_of_isDirectionWord hword)

theorem parted_lastWord (hpart : Text.Trimmed part) (hsome : (Text.lastWord part).1 ≠ [])
    (hline : '\n' ∉ (Text.lastWord part).1) :
    Parted part (Text.lastWord part).1 (Text.lastWord part).2 := by
  obtain ⟨gap, hall, hgap, happart⟩ := Text.lastWord_parts part
  have hfirst : (Text.lastWord part).1.head? = part.head? := by
    conv_rhs => rw [hall]
    rw [List.append_assoc, List.head?_append_of_ne_nil _ hsome]
  have htrimmed : Text.Trimmed (Text.lastWord part).1 :=
    ⟨hfirst ▸ hpart.first, Text.last_before_lastWord part⟩
  exact ⟨hsome, htrimmed, hline, gap, happart hsome, hgap, hall⟩

theorem readColumn_eq (part : List Char) :
    readColumn part =
      if isDirectionWord (Text.lastWord part).2 = true ∧ (Text.lastWord part).1 ≠ [] ∧
          '\n' ∉ (Text.lastWord part).1 then
        (directionOfWord (Text.lastWord part).2).map fun d =>
          (String.ofList (Text.lastWord part).1, d)
      else .ok (String.ofList part, .ascending) := by
  simp [readColumn, and_assoc]

theorem readColumn_parted {column word : List Char} (h : Parted part column word)
    (hword : isDirectionWord word = true) :
    readColumn part = (directionOfWord word).map fun d => (String.ofList column, d) := by
  rw [readColumn_eq, h.lastWord_eq hword, if_pos ⟨hword, h.nonempty, h.oneLine⟩]

theorem readColumn_whole (hpart : Text.Trimmed part)
    (h : ∀ column word, Parted part column word → isDirectionWord word = false) :
    readColumn part = .ok (String.ofList part, .ascending) := by
  rw [readColumn_eq]
  refine if_neg fun ⟨hword, hsome, hline⟩ => ?_
  simp [h _ _ (parted_lastWord hpart hsome hline)] at hword

/-- What a part is read as is what the reader gives. -/
theorem readColumn_of_readAs (hpart : Text.Trimmed part) {reading : String × Direction}
    (h : ReadAs part reading) : readColumn part = .ok reading := by
  cases h with
  | directed parted spelt =>
    rw [readColumn_parted parted (isDirectionWord_of_small spelt), directionOfWord_of_small spelt]
    rfl
  | whole plain => exact readColumn_whole hpart plain

/-- A part is read unless it is misspelt. -/
theorem readColumn_cases (hpart : Text.Trimmed part) :
    (∃ word, Misspelt part word ∧
      readColumn part = .error (.unknownDirection (String.ofList (word.map Char.toLower)))) ∨
    (∀ word, ¬ Misspelt part word) ∧ ∃ reading, ReadAs part reading ∧
      readColumn part = .ok reading := by
  by_cases hword : ∃ column word, Parted part column word ∧ isDirectionWord word = true
  · obtain ⟨column, word, hparted, hword⟩ := hword
    have hread := readColumn_parted hparted hword
    by_cases hlong : 'ſ' ∈ word
    · rw [directionOfWord_of_long hlong] at hread
      exact Or.inl ⟨word, ⟨⟨column, hparted⟩, hword, hlong⟩, hread⟩
    · obtain ⟨d, hspelt, hd⟩ := directionOfWord_of_short hword hlong
      rw [hd] at hread
      refine Or.inr ⟨?_, _, .directed hparted hspelt, hread⟩
      rintro other ⟨⟨front, hfront⟩, hother, hlong'⟩
      have hsame := (hparted.lastWord_eq hword).symm.trans (hfront.lastWord_eq hother)
      cases hsame
      exact hlong hlong'
  · have hplain : ∀ column word, Parted part column word → isDirectionWord word = false := by
      intro column word hparted
      rw [Bool.eq_false_iff]
      exact fun hdirected => hword ⟨column, word, hparted, hdirected⟩
    refine Or.inr ⟨?_, _, .whole hplain, readColumn_whole hpart hplain⟩
    rintro word ⟨⟨column, hparted⟩, hdirected, -⟩
    exact hword ⟨column, word, hparted, hdirected⟩

theorem readColumn_ok (hpart : Text.Trimmed part) {reading : String × Direction}
    (h : readColumn part = .ok reading) :
    ReadAs part reading ∧ ∀ word, ¬ Misspelt part word := by
  obtain ⟨word, -, hfault⟩ | ⟨hspelt, other, hother, hread⟩ := readColumn_cases hpart
  · rw [h] at hfault
    cases hfault
  · rw [h] at hread
    cases hread
    exact ⟨hother, hspelt⟩

theorem readColumn_error (hpart : Text.Trimmed part) {fault : Fault}
    (h : readColumn part = .error fault) :
    ∃ word, Misspelt part word ∧
      fault = .unknownDirection (String.ofList (word.map Char.toLower)) := by
  obtain ⟨word, hword, hfault⟩ | ⟨-, other, -, hread⟩ := readColumn_cases hpart
  · rw [h] at hfault
    cases hfault
    exact ⟨word, hword, rfl⟩
  · rw [h] at hread
    cases hread

end

/-- The name of a column in an order text: something, without a comma in it and without blanks at
its ends. -/
structure IsPartName (name : String) : Prop where
  nonempty : name ≠ ""
  oneItem : ',' ∉ name.toList
  trimmed : Text.Trimmed name.toList

theorem isPartName_of_mem_orderParts {s : String} {part : List Char} (h : part ∈ orderParts s) :
    IsPartName (String.ofList part) := by
  rw [orderParts, List.mem_filter, List.mem_map] at h
  obtain ⟨⟨piece, hpiece, rfl⟩, hsome⟩ := h
  refine ⟨?_, ?_, ?_⟩
  · simpa using hsome
  · rw [String.toList_ofList]
    exact fun hcomma => Text.not_mem_of_mem_splitAll hpiece (Text.mem_of_mem_trimBy hcomma)
  · rw [String.toList_ofList]
    exact Text.trimmed_trimBy piece

theorem trimmed_of_mem_orderParts {s : String} {part : List Char} (h : part ∈ orderParts s) :
    Text.Trimmed part := by
  simpa using (isPartName_of_mem_orderParts h).trimmed

theorem ReadAs.isPartName {part : List Char} {reading : String × Direction}
    (h : ReadAs part reading) (hpart : IsPartName (String.ofList part)) :
    IsPartName reading.1 := by
  cases h with
  | whole => exact hpart
  | directed parted =>
    obtain ⟨hsome, htrimmed, -, gap, -, -, rfl⟩ := parted
    have hcomma := hpart.oneItem
    rw [String.toList_ofList] at hcomma
    refine ⟨by simpa using hsome, ?_, ?_⟩
    · rw [String.toList_ofList]
      exact fun hmem => hcomma (List.mem_append_left _ (List.mem_append_left _ hmem))
    · rwa [String.toList_ofList]

/-! ## Parts between commas -/

/-- A text and its parts between commas: each without the blanks around it, and none where
there are only blanks. -/
inductive HasParts : String → List (List Char) → Prop
  | blank {s : String} (blanks : ∀ c ∈ s.toList, Text.isBlank c = true) : HasParts s []
  | single {s : String} {front part back : List Char} (all : s.toList = front ++ part ++ back)
      (before : ∀ c ∈ front, Text.isBlank c = true) (behind : ∀ c ∈ back, Text.isBlank c = true)
      (nonempty : part ≠ []) (trimmed : Text.Trimmed part) (whole : ',' ∉ part) :
      HasParts s [part]
  | joined {s t : String} {parts more : List (List Char)} (first : HasParts s parts)
      (rest : HasParts t more) : HasParts (s ++ "," ++ t) (parts ++ more)

theorem orderParts_joined (s t : String) :
    orderParts (s ++ "," ++ t) = orderParts s ++ orderParts t := by
  have hchars : (s ++ "," ++ t).toList = s.toList ++ ',' :: t.toList := by simp
  simp only [orderParts, hchars, Text.splitAll_joined, List.map_append, List.filter_append]

/-- A text without a comma is one part, if anything is left of it. -/
theorem orderParts_whole {s : String} (h : ',' ∉ s.toList) :
    orderParts s = [Text.trimBy Text.isBlank s.toList].filter (!·.isEmpty) := by
  rw [orderParts, Text.splitAll_of_whole h]
  rfl

theorem whole_of_blank {cs : List Char} (h : ∀ c ∈ cs, Text.isBlank c = true) : ',' ∉ cs :=
  fun hcomma => absurd (h ',' hcomma) (by decide)

theorem HasParts.eq_orderParts {s : String} {parts : List (List Char)} (h : HasParts s parts) :
    parts = orderParts s := by
  induction h with
  | @blank s blanks =>
    have hnone : Text.trimBy Text.isBlank s.toList = [] := by
      rw [Text.trimBy, List.dropWhile_eq_nil_iff.mpr blanks]
      rfl
    rw [orderParts_whole (whole_of_blank blanks), hnone]
    rfl
  | @single s front part back all before behind nonempty trimmed whole =>
    have hwhole : ',' ∉ s.toList := by
      rw [all, List.mem_append, List.mem_append]
      rintro ((h | h) | h)
      · exact whole_of_blank before h
      · exact whole h
      · exact whole_of_blank behind h
    rw [orderParts_whole hwhole, all, Text.trimBy_around before trimmed nonempty behind]
    simp [nonempty]
  | joined _ _ ih ih' => rw [orderParts_joined, ih, ih']

/-- Every text has parts. -/
theorem hasParts_orderParts (s : String) : HasParts s (orderParts s) := by
  induction hlength : s.toList.length using Nat.strong_induction_on generalizing s with
  | h n ih =>
    by_cases hcomma : ',' ∈ s.toList
    · obtain ⟨front, back, hcut⟩ := List.append_of_mem hcomma
      have hjoined : s = String.ofList front ++ "," ++ String.ofList back := by
        apply String.toList_injective
        simp [hcut]
      have hsum : front.length + back.length < n := by
        rw [← hlength, hcut, List.length_append, List.length_cons]
        omega
      rw [hjoined, orderParts_joined]
      exact .joined (ih _ (by simp; omega) _ rfl) (ih _ (by simp; omega) _ rfl)
    · rw [orderParts_whole hcomma]
      obtain ⟨front, back, hall, hfront, hback⟩ := Text.trimBy_parts s.toList
      have htrimmed := Text.trimmed_trimBy s.toList
      generalize Text.trimBy Text.isBlank s.toList = part at hall htrimmed
      cases part with
      | nil =>
        refine .blank fun c hc => ?_
        rw [hall, List.append_nil, List.mem_append] at hc
        exact hc.elim (hfront c) (hback c)
      | cons c part =>
        refine .single hall hfront hback (List.cons_ne_nil c part) htrimmed fun h => hcomma ?_
        rw [hall]
        exact List.mem_append_left _ (List.mem_append_right _ h)

/-! ## Order texts -/

/-- Every value that counts as a text is read as that text. -/
theorem Columns.ofValue_of_text {v : Value} {s : String} (h : v.text? = some s) :
    ofValue v = ofText s := by
  cases v with
  | text =>
    cases h
    exact ofValue_text s
  | direction | operator =>
    cases h
    simp [ofValue, Value.isTruthy, Value.text?]
  | _ => cases h

/-- The text of an order is read as columns, each under a well-formed name: every part is a column
with a direction behind it or is one as a whole, and of two parts under one name the later
decides. The one exception is a direction word with a long s in it. The first part that ends with
such a word is a fault. -/
theorem Columns.order_texts_are_read_unless_misspelt {v : Value} {s : String}
    (h : v.text? = some s) :
    ((∃ part ∈ orderParts s, ∃ word, Misspelt part word) →
      ∃ before part after word, orderParts s = before ++ part :: after ∧
        (∀ p ∈ before, ∀ other, ¬ Misspelt p other) ∧ Misspelt part word ∧
        ofValue v = .error (.unknownDirection (String.ofList (word.map Char.toLower)))) ∧
    ((¬ ∃ part ∈ orderParts s, ∃ word, Misspelt part word) →
      ∃ readings, List.Forall₂ ReadAs (orderParts s) readings ∧
        ofValue v = .ok (Entries.ofList readings) ∧
        ∀ name ∈ Entries.keys (Entries.ofList readings), IsPartName name) := by
  have hnames (part : List Char) (hpart : part ∈ orderParts s) :=
    isPartName_of_mem_orderParts hpart
  have htrimmed (part : List Char) (hpart : part ∈ orderParts s) : Text.Trimmed part := by
    simpa using (hnames part hpart).trimmed
  rw [ofValue_of_text h, ofText]
  obtain ⟨readings, hreadings, hall⟩ | ⟨before, part, after, fault, hparts, hbefore, hpart,
    hfirst⟩ := mapM_cases readColumn (orderParts s)
  · -- Every part is read, so none is misspelt.
    have hread : List.Forall₂ (fun part reading => part ∈ orderParts s ∧
        ReadAs part reading ∧ ∀ word, ¬ Misspelt part word) (orderParts s) readings :=
      (List.forall₂_and_left _ _).mpr ⟨fun part hpart => hpart,
        ((List.forall₂_and_left _ _).mpr ⟨htrimmed, hreadings⟩).imp
          fun part reading h => readColumn_ok h.1 h.2⟩
    rw [hall]
    constructor
    · rintro ⟨part, hpart, word, hword⟩
      exact absurd hword (forall_left hread (fun _ _ h => h.2.2) part hpart word)
    · intro _
      have hnamed : ∀ reading ∈ readings, IsPartName reading.1 :=
        forall_left hread.flip fun reading part h => h.2.1.isPartName (hnames part h.1)
      refine ⟨readings, hread.imp fun _ _ h => h.2.1, rfl, fun name hname => ?_⟩
      obtain ⟨reading, hmem, rfl⟩ := List.mem_map.mp (Entries.mem_keys_ofList hname)
      exact hnamed reading hmem
  · have hmem : part ∈ orderParts s := by simp [hparts]
    obtain ⟨word, hword, rfl⟩ := readColumn_error (htrimmed part hmem) hpart
    rw [hfirst]
    refine ⟨fun _ => ⟨before, part, after, word, hparts, fun p hp => ?_, hword, rfl⟩,
      fun hspelt => absurd ⟨part, hmem, word, hword⟩ hspelt⟩
    obtain ⟨reading, hreading⟩ := hbefore p hp
    exact (readColumn_ok (htrimmed p (by simp [hparts, hp])) hreading).2

/-- A direction in capitals is read as well as none. One with a long s is a fault. -/
theorem Columns.the_year_descends_in_capitals :
    (∃ readings, List.Forall₂ ReadAs (orderParts "year DESC, title") readings ∧
      Entries.ofList readings = [("year", .descending), ("title", .ascending)] ∧
      ∀ name ∈ ["year", "title"], IsPartName name) ∧
    ∃ part ∈ orderParts "title aſc", ∃ word, Misspelt part word ∧
      ofValue (.text "title aſc") =
        .error (.unknownDirection (String.ofList (word.map Char.toLower))) := by
  obtain ⟨-, hshort⟩ := order_texts_are_read_unless_misspelt (v := .text "year DESC, title") rfl
  obtain ⟨hlong, -⟩ := order_texts_are_read_unless_misspelt (v := .text "title aſc") rfl
  constructor
  · have hspelt : ¬ ∃ part ∈ orderParts "year DESC, title", ∃ word, Misspelt part word := by
      rintro ⟨part, hpart, word, hword⟩
      have hnone : ∀ part ∈ orderParts "year DESC, title", 'ſ' ∉ part := by decide
      exact hnone part hpart hword.mem
    obtain ⟨readings, hreadings, hread, hnames⟩ := hshort hspelt
    have hcolumns : Entries.ofList readings = [("year", .descending), ("title", .ascending)] :=
      (Except.ok.inj hread).symm
    rw [hcolumns] at hnames
    exact ⟨readings, hreadings, hcolumns, hnames⟩
  · have hparted : Parted "title aſc".toList "title".toList "aſc".toList :=
      ⟨by decide, by decide, by decide, [' '], by decide, by simp [Text.isBlank], rfl⟩
    have hpart : Misspelt "title aſc".toList "aſc".toList :=
      ⟨⟨_, hparted⟩, by decide, by decide⟩
    have hmem : "title aſc".toList ∈ orderParts "title aſc" := by decide
    obtain ⟨before, part, after, word, hparts, -, hword, hfault⟩ := hlong ⟨_, hmem, _, hpart⟩
    exact ⟨part, by simp [hparts], word, hword, hfault⟩

/-- Not every order text is read: the long s passes for an s where a direction is looked for, and
makes it no direction where it is read. -/
theorem Columns.an_order_by_a_long_s_is_a_fault :
    ¬ ∃ columns, ofValue (.text "title aſc") = .ok columns := by
  rintro ⟨columns, hcolumns⟩
  cases hcolumns

end SearchQuery
