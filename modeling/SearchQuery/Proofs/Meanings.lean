-- What conditions mean. A condition asks for nothing, or it holds or does not hold once it is
-- known which fragments of query text hold. The text that a condition compiles to can be
-- read in one way only, and this reading means what the condition means.
import Mathlib.Data.List.Forall2
import SearchQuery.Proofs.ClosedGroups
import SearchQuery.Proofs.Readings

namespace SearchQuery

open Text

/-! ## The meaning of a condition -/

/-- What joined verdicts come to; those that ask for nothing do not count. -/
def Joint.fold (j : Joint) (verdicts : List (Option Bool)) : Option Bool :=
  verdicts.foldr (Option.merge j.join) none

/-- The verdict on one field. -/
def fieldMeaning (truth : String → Bool) : String × FieldValue → Option Bool
  | (_, .absent) => none
  | (field, .one text) => some (truth (field ++ ":" ++ text))
  | (field, .many texts) => Joint.any.fold (texts.map fun t => some (truth (field ++ ":" ++ t)))

/-- The verdict on a map of fields. Either all fields count, or the first one with several
values decides alone. -/
def fieldsMeaning (mode : FieldMode) (truth : String → Bool)
    (entries : List (String × FieldValue)) : Option Bool :=
  match mode, firstMany? entries with
  | .firstAlternatives, some (field, texts) => fieldMeaning truth (field, .many texts)
  | _, _ => Joint.all.fold (entries.map (fieldMeaning truth))

namespace Condition

/-- What an operand adds to the fragment of a word without rules of its own. -/
def token (mode : FieldMode) : Condition → String
  | .literal text => text
  | c =>
    match c.compile mode with
    | .ok text => text
    | .error _ => ""

mutual
/-- The verdict on a condition when some fragments hold and others do not; none if the
condition asks for nothing. -/
def meaning (mode : FieldMode) (truth : String → Bool) : Condition → Option Bool
  | .literal text => if text = "" then none else some (truth text)
  | .fields entries => fieldsMeaning mode truth entries
  | .compound name operands =>
    match Operator.ofName? name with
    | some .and => Joint.all.fold (meaningAll mode truth operands)
    | some .or => Joint.any.fold (meaningAll mode truth operands)
    | some .not =>
      match meaningAll mode truth operands with
      | [verdict] => verdict.map (!·)
      | _ => none
    | some .wild =>
      let tokens := operands.map (token mode)
      if ∀ t ∈ tokens, t = "" then none else some (truth (" ".intercalate tokens))
    | none => some (truth (name ++ " " ++ " ".intercalate (operands.map (token mode))))
/-- The verdicts on several conditions. -/
def meaningAll (mode : FieldMode) (truth : String → Bool) : List Condition → List (Option Bool)
  | [] => []
  | c :: cs => meaning mode truth c :: meaningAll mode truth cs
end

theorem meaningAll_eq_map (mode : FieldMode) (truth : String → Bool) (cs : List Condition) :
    meaningAll mode truth cs = cs.map (meaning mode truth) := by
  induction cs with
  | nil => simp [meaningAll]
  | cons c cs ih => simp [meaningAll, ih]

end Condition

/-! ## Joined verdicts -/

namespace Joint

theorem fold_cons (j : Joint) (v : Option Bool) (vs : List (Option Bool)) :
    j.fold (v :: vs) = Option.merge j.join v (j.fold vs) := rfl

theorem fold_map_some (j : Joint) (b : Bool) (bs : List Bool) :
    j.fold ((b :: bs).map some) = some (j.joinAll (b :: bs)) := by
  induction bs generalizing b with
  | nil => simp [fold, joinAll_singleton]
  | cons c cs ih =>
    rw [List.map_cons, fold_cons, ih, Option.merge_some_some, joinAll_cons j b]

end Joint

/-! ## Texts that say what a verdict says -/

/-- A text says what a verdict says: nothing, as the empty text does, or the verdict on
one of its readings. -/
def Says (text : String) (verdict : (String → Bool) → Option Bool) : Prop :=
  (text = "" ∧ ∀ truth, verdict truth = none) ∨
    ∃ r, Reads text r ∧ ∀ truth, verdict truth = some (r.holds truth)

namespace Says

theorem nothing {verdict : (String → Bool) → Option Bool} (h : ∀ truth, verdict truth = none) :
    Says "" verdict := Or.inl ⟨rfl, h⟩

theorem atom {text : String} (hne : text ≠ "") (hplain : Plain text.toList) :
    Says text fun truth => some (truth text) :=
  Or.inr ⟨.atom text, .atom hne hplain, fun truth => by simp [QueryReading.holds]⟩

/-- A negated text says the opposite; nothing stays nothing. -/
theorem negated {text : String} {verdict : (String → Bool) → Option Bool}
    (h : Says text verdict) :
    Says (if text == "" then "" else "NOT" ++ " (" ++ text ++ ")") fun truth =>
      (verdict truth).map (!·) := by
  rcases h with ⟨rfl, hnone⟩ | ⟨r, hr, hsome⟩
  · exact nothing fun truth => by rw [hnone, Option.map_none]
  · have hne : text ≠ "" := hr.ne_empty
    refine Or.inr ⟨.negation r, by simpa [hne] using hr.negation, fun truth => ?_⟩
    simp only [hsome, Option.map_some, QueryReading.holds]

/-- What is left of several texts without the empty ones can be read part by part, and the
verdicts on the parts come to what the verdicts on all texts come to. -/
theorem exists_parts (j : Joint) {texts : List String}
    {verdicts : List ((String → Bool) → Option Bool)} (h : List.Forall₂ Says texts verdicts) :
    ∃ parts : List (String × QueryReading), texts.filter (· != "") = parts.map (·.1) ∧
      (∀ p ∈ parts, Reads p.1 p.2) ∧
      ∀ truth, j.fold (verdicts.map (· truth)) =
        j.fold ((parts.map (·.2.holds truth)).map some) := by
  induction h with
  | nil => exact ⟨[], by simp⟩
  | @cons text verdict texts verdicts hsaid _ ih =>
    obtain ⟨parts, htexts, hreads, hfold⟩ := ih
    rcases hsaid with ⟨rfl, hnone⟩ | ⟨r, hr, hsome⟩
    · refine ⟨parts, by simpa using htexts, hreads, fun truth => ?_⟩
      rw [List.map_cons, Joint.fold_cons, hnone, Option.merge_none_left, hfold]
    · refine ⟨(text, r) :: parts, ?_, ?_, fun truth => ?_⟩
      · simp [hr.ne_empty, htexts]
      · simpa using ⟨hr, fun a b hab => hreads (a, b) hab⟩
      · rw [List.map_cons, Joint.fold_cons, hsome, hfold]
        rfl

/-- A single part says what its own verdict says. -/
theorem single (j : Joint) {text : String} {p : String × QueryReading} (h : Reads text p.2) :
    Says text fun truth => j.fold (([p].map (·.2.holds truth)).map some) := by
  refine Or.inr ⟨p.2, h, fun truth => ?_⟩
  exact (j.fold_map_some _ _).trans (congrArg some (j.joinAll_singleton _))

/-- Several parts under a word say what their joined verdicts say. -/
theorem several (j : Joint) {p q : String × QueryReading}
    {parts : List (String × QueryReading)} (h : ∀ x ∈ p :: q :: parts, Reads x.1 x.2) :
    Says (groups j.word ((p :: q :: parts).map (·.1))) fun truth =>
      j.fold (((p :: q :: parts).map (·.2.holds truth)).map some) := by
  refine Or.inr ⟨_, .junction j (p :: q :: parts) (by simp) h, fun truth => ?_⟩
  refine (j.fold_map_some _ _).trans (congrArg some ?_)
  rw [QueryReading.holds, QueryReading.holdsAll_eq_map, List.map_map]
  rfl

/-- Groups without the empty ones say what the joined verdicts say. -/
theorem groups_of (j : Joint) {texts : List String}
    {verdicts : List ((String → Bool) → Option Bool)} (h : List.Forall₂ Says texts verdicts) :
    Says (groups j.word (texts.filter (· != ""))) fun truth =>
      j.fold (verdicts.map (· truth)) := by
  obtain ⟨parts, htexts, hreads, hfold⟩ := exists_parts j h
  simp only [hfold, htexts]
  match parts with
  | [] => exact nothing fun _ => rfl
  | [p] => exact single j (.content (hreads p List.mem_cons_self))
  | p :: q :: parts => exact several j hreads

/-- Joined texts without the empty ones say what the joined verdicts say. -/
theorem joined_of (j : Joint) {texts : List String}
    {verdicts : List ((String → Bool) → Option Bool)} (h : List.Forall₂ Says texts verdicts) :
    Says (joined j.word (texts.filter (· != ""))) fun truth =>
      j.fold (verdicts.map (· truth)) := by
  obtain ⟨parts, htexts, hreads, hfold⟩ := exists_parts j h
  simp only [hfold, htexts]
  match parts with
  | [] => exact nothing fun _ => rfl
  | [p] => exact single j (hreads p List.mem_cons_self)
  | p :: q :: parts =>
    have hseveral := several j hreads
    rwa [List.map_cons, List.map_cons, ← joined_cons_cons] at hseveral

end Says

/-! ## What maps of fields say -/

theorem onePart_ne_empty (field text : String) : field ++ ":" ++ text ≠ "" := by
  intro h
  have := congrArg String.toList h
  simp at this

/-- The text of one field and one value. -/
theorem says_onePart {field text : String} (hf : Plain field.toList) (ht : Plain text.toList) :
    Says (field ++ ":" ++ text) fun truth => some (truth (field ++ ":" ++ text)) := by
  have hcolon : Plain ":".toList := by decide
  apply Says.atom (onePart_ne_empty field text)
  simp only [String.toList_append]
  exact (hf.append hcolon).append ht

theorem says_alternatives {field : String} {texts : List String} (hf : Plain field.toList)
    (ht : ∀ t ∈ texts, Plain t.toList) :
    Says (alternatives field texts) fun truth => fieldMeaning truth (field, .many texts) := by
  have hsaid : List.Forall₂ Says (texts.map fun t => field ++ ":" ++ t)
      (texts.map fun t truth => some (truth (field ++ ":" ++ t))) := by
    simp only [List.forall₂_map_left_iff, List.forall₂_map_right_iff, List.forall₂_same]
    exact fun t hmem => says_onePart hf (ht t hmem)
  have hkept : (texts.map fun t => field ++ ":" ++ t).filter (· != "") =
      texts.map fun t => field ++ ":" ++ t := by
    rw [List.filter_eq_self]
    simp
  have hjoined := Says.joined_of .any hsaid
  rw [hkept] at hjoined
  simpa [fieldMeaning, alternatives, Joint.word, Function.comp_def] using hjoined

/-- A field without a part adds nothing. -/
theorem says_fieldPart {entry : String × FieldValue} (hf : Plain entry.1.toList)
    (ht : ∀ t ∈ entry.2.texts, Plain t.toList) :
    Says ((fieldPart? entry).getD "") fun truth => fieldMeaning truth entry := by
  obtain ⟨field, value⟩ := entry
  cases value with
  | absent => exact Says.nothing fun _ => rfl
  | one text => exact says_onePart hf (ht text (by simp [FieldValue.texts]))
  | many texts =>
    have hpart : (fieldPart? (field, .many texts)).getD "" = alternatives field texts := by
      by_cases hempty : alternatives field texts = "" <;> simp [fieldPart?, hempty]
    rw [hpart]
    exact says_alternatives hf ht

theorem fieldPart?_ne_empty (entry : String × FieldValue) : fieldPart? entry ≠ some "" := by
  intro h
  rcases fieldPart?_eq_some_iff.mp h with ⟨text, -, htext⟩ | ⟨texts, -, hne, -⟩
  · exact onePart_ne_empty _ _ htext.symm
  · exact hne rfl

/-- The parts of the fields are their texts without the empty ones. -/
theorem filterMap_fieldPart? (entries : List (String × FieldValue)) :
    entries.filterMap fieldPart? =
      (entries.map fun e => (fieldPart? e).getD "").filter (· != "") := by
  induction entries with
  | nil => rfl
  | cons entry entries ih =>
    have hne := fieldPart?_ne_empty entry
    cases hp : fieldPart? entry with
    | none => simpa [hp] using ih
    | some part =>
      rw [hp, ne_eq, Option.some.injEq] at hne
      simpa [hp, hne] using ih

/-- Fields that all count. -/
theorem says_fields {entries : List (String × FieldValue)}
    (h : ∀ entry ∈ entries, Plain entry.1.toList ∧ ∀ t ∈ entry.2.texts, Plain t.toList) :
    Says (joined "AND" (entries.filterMap fieldPart?)) fun truth =>
      Joint.all.fold (entries.map (fieldMeaning truth)) := by
  have hsaid : List.Forall₂ Says (entries.map fun e => (fieldPart? e).getD "")
      (entries.map fun e truth => fieldMeaning truth e) := by
    simp only [List.forall₂_map_left_iff, List.forall₂_map_right_iff, List.forall₂_same]
    intro entry hmem
    obtain ⟨hf, ht⟩ := h entry hmem
    exact says_fieldPart hf ht
  have hjoined := Says.joined_of .all hsaid
  rw [← filterMap_fieldPart?] at hjoined
  simpa [Joint.word, Function.comp_def] using hjoined

theorem says_fieldsText (mode : FieldMode) {entries : List (String × FieldValue)}
    (h : ∀ entry ∈ entries, Plain entry.1.toList ∧ ∀ t ∈ entry.2.texts, Plain t.toList) :
    Says (fieldsText mode entries) fun truth => fieldsMeaning mode truth entries := by
  rw [fieldsText_eq]
  unfold fieldsMeaning
  cases mode with
  | firstAlternatives =>
    cases hfirst : firstMany? entries with
    | none => exact says_fields h
    | some first =>
      obtain ⟨hf, ht⟩ := h _ (firstMany?_mem hfirst)
      exact says_alternatives hf ht
  | allFields => exact says_fields h

/-! ## What conditions say -/

namespace Condition

/-- A condition of the usual make: negations have one operand, and the operands of words
without parentheses of their own are query texts. -/
inductive Regular : Condition → Prop
  | literal (text : String) : Regular (.literal text)
  | fields (entries : List (String × FieldValue)) : Regular (.fields entries)
  | junction {name : String} {operands : List Condition} : name = "AND" ∨ name = "OR" →
      (∀ o ∈ operands, Regular o) → Regular (.compound name operands)
  | negation {o : Condition} : Regular o → Regular (.compound "NOT" [o])
  | verbatim {name : String} (tokens : List String) : name ≠ "AND" → name ≠ "OR" →
      name ≠ "NOT" → Regular (.compound name (tokens.map .literal))

variable {mode : FieldMode}

theorem says_junction {j : Joint} {operands : List Condition}
    (h : ∀ o ∈ operands, ∃ text, compile mode o = .ok text ∧
      Says text fun truth => o.meaning mode truth) :
    ∃ text, compile mode (.compound j.word operands) = .ok text ∧
      Says text fun truth => j.fold (meaningAll mode truth operands) := by
  obtain ⟨parts, hparts, hsaid⟩ := exists_parts_of_operands h
  have hname : j.word = "AND" ∨ j.word = "OR" := by cases j <;> simp [Joint.word]
  have hverdicts : List.Forall₂ Says parts (operands.map fun o truth => o.meaning mode truth) := by
    rw [List.forall₂_map_right_iff]
    exact hsaid.flip
  refine ⟨_, compile_compound_eq_ok_iff.mpr ⟨parts, hparts, operatorText_junction hname parts⟩, ?_⟩
  simpa [meaningAll_eq_map, Function.comp_def] using Says.groups_of j hverdicts

theorem says_negation {o : Condition} {part : String} (ho : compile mode o = .ok part)
    (hsaid : Says part fun truth => o.meaning mode truth) :
    ∃ text, compile mode (.compound "NOT" [o]) = .ok text ∧
      Says text fun truth => (compound "NOT" [o]).meaning mode truth := by
  have hop : Operator.ofName? "NOT" = some .not := Operator.ofName?_name .not
  have hcompile : compile mode (.compound "NOT" [o]) =
      .ok (if part == "" then "" else "NOT" ++ " (" ++ part ++ ")") :=
    compile_compound_eq_ok_iff.mpr ⟨[part], by simp [ho],
      by simp [operatorText, negationText, hop]⟩
  refine ⟨_, hcompile, ?_⟩
  simpa only [meaning, hop, meaningAll] using hsaid.negated

theorem compile_literals (tokens : List String) :
    (tokens.map literal).map (compile mode) = tokens.map .ok := by
  simp [compile]

theorem tokens_of_literals (tokens : List String) :
    (tokens.map literal).map (token mode) = tokens := by
  simp [token, Function.comp_def]

/-- A word without rules of its own stands in front of its tokens. -/
theorem says_unknown {name : String} {tokens : List String} (hop : Operator.ofName? name = none)
    (hname : Plain name.toList) (htokens : ∀ t ∈ tokens, Plain t.toList) :
    ∃ text, compile mode (.compound name (tokens.map .literal)) = .ok text ∧
      Says text fun truth => (compound name (tokens.map .literal)).meaning mode truth := by
  have hblank : Plain " ".toList := by decide
  have hcompile : compile mode (.compound name (tokens.map .literal)) =
      .ok (name ++ " " ++ " ".intercalate tokens) :=
    compile_compound_eq_ok_iff.mpr
      ⟨tokens, compile_literals tokens, by simp [operatorText, hop]⟩
  refine ⟨_, hcompile, ?_⟩
  simp only [meaning, hop, tokens_of_literals]
  apply Says.atom
  · intro h
    have := congrArg String.toList h
    simp at this
  · simp only [String.toList_append]
    exact (hname.append hblank).append (plain_intercalate hblank htokens)

/-- The tokens of a verbatim fragment stand alone, and only if one of them is not empty. -/
theorem says_wild {tokens : List String} (htokens : ∀ t ∈ tokens, Plain t.toList) :
    ∃ text, compile mode (.compound "WILD" (tokens.map .literal)) = .ok text ∧
      Says text fun truth => (compound "WILD" (tokens.map .literal)).meaning mode truth := by
  have hop : Operator.ofName? "WILD" = some .wild := Operator.ofName?_name .wild
  have hcompile : compile mode (.compound "WILD" (tokens.map .literal)) =
      .ok (if tokens.all (· == "") then "" else " ".intercalate tokens) :=
    compile_compound_eq_ok_iff.mpr
      ⟨tokens, compile_literals tokens, by simp [operatorText, hop]⟩
  refine ⟨_, hcompile, ?_⟩
  simp only [meaning, hop, tokens_of_literals]
  by_cases hempty : ∀ t ∈ tokens, t = ""
  · have hall : tokens.all (· == "") = true := by simpa using hempty
    simp only [hall, if_true, if_pos hempty]
    exact Says.nothing fun _ => rfl
  · have hall : ¬ tokens.all (· == "") = true := by simpa using hempty
    simp only [if_neg hall, if_neg hempty]
    apply Says.atom
    · exact fun h => hempty (intercalate_eq_empty h)
    · exact plain_intercalate (by decide) htokens

theorem says_verbatim {name : String} {tokens : List String} (hand : name ≠ "AND")
    (hor : name ≠ "OR") (hnot : name ≠ "NOT") (hname : Plain name.toList)
    (htokens : ∀ t ∈ tokens, Plain t.toList) :
    ∃ text, compile mode (.compound name (tokens.map .literal)) = .ok text ∧
      Says text fun truth => (compound name (tokens.map .literal)).meaning mode truth := by
  cases hop : Operator.ofName? name with
  | none => exact says_unknown hop hname htokens
  | some o =>
    have hn := Operator.ofName?_eq_some_iff.mp hop
    cases o with
    | and => exact absurd hn hand
    | or => exact absurd hn hor
    | not => exact absurd hn hnot
    | wild => exact hn ▸ says_wild htokens

/-- A regular condition without parentheses in its texts compiles, and its text says what
the condition means. -/
theorem says_compile (mode : FieldMode) {c : Condition} (hc : Regular c)
    (hplain : ∀ t ∈ c.texts, Plain t.toList) :
    ∃ text, compile mode c = .ok text ∧ Says text fun truth => c.meaning mode truth := by
  induction hc with
  | literal text =>
    refine ⟨text, by simp [compile], ?_⟩
    by_cases hempty : text = ""
    · subst hempty
      exact Says.nothing fun _ => by simp [meaning]
    · simpa [meaning, hempty] using Says.atom hempty (hplain text (by simp [texts]))
  | fields entries =>
    refine ⟨fieldsText mode entries, by simp [compile], ?_⟩
    have hentries : ∀ entry ∈ entries,
        Plain entry.1.toList ∧ ∀ t ∈ entry.2.texts, Plain t.toList := fun entry hentry =>
      ⟨hplain _ (mem_texts_of_field hentry), fun t ht => hplain t (mem_texts_of_value hentry ht)⟩
    simpa [meaning] using says_fieldsText mode hentries
  | @junction name operands hname _ ih =>
    have hoperands := fun o ho => ih o ho fun t ht => hplain t (texts_of_operand ho ht)
    rcases hname with rfl | rfl
    · simpa [meaning, Operator.ofName?, Joint.word] using says_junction (j := .all) hoperands
    · simpa [meaning, Operator.ofName?, Joint.word] using says_junction (j := .any) hoperands
  | negation _ ih =>
    obtain ⟨part, hpart, hsaid⟩ :=
      ih fun t ht => hplain t (texts_of_operand List.mem_cons_self ht)
    exact says_negation hpart hsaid
  | verbatim tokens hand hor hnot =>
    apply says_verbatim hand hor hnot (hplain _ (name_mem_texts _ _))
    intro t ht
    exact hplain t (texts_of_operand (List.mem_map_of_mem ht) (by simp [texts]))

/-- Compiling keeps the meaning. A regular condition without parentheses in its texts either
asks for nothing and compiles to the empty text, or compiles to a text that can be read in
one way only, and this reading holds exactly when the condition does. -/
theorem compiled_text_has_one_reading_with_the_same_meaning (mode : FieldMode) {c : Condition}
    (hc : Regular c) (hplain : ∀ t ∈ c.texts, Plain t.toList) :
    (compile mode c = .ok "" ∧ ∀ truth, c.meaning mode truth = none) ∨
      ∃ text r, compile mode c = .ok text ∧ (∀ s, Reads text s ↔ s = r) ∧
        ∀ truth, c.meaning mode truth = some (r.holds truth) := by
  obtain ⟨text, htext, ⟨rfl, hnone⟩ | ⟨r, hr, hsome⟩⟩ := says_compile mode hc hplain
  · exact Or.inl ⟨htext, hnone⟩
  · refine Or.inr ⟨text, r, htext, fun s => ⟨fun hs => hr.unique hs, ?_⟩, hsome⟩
    rintro rfl
    exact hr

/-- Fields with several values under a junction, beside a negation and an empty text. -/
def mixedCondition : Condition :=
  .compound "AND" [.fields [("city", .one "NY"), ("type", .many ["a", "b"])], .literal "",
    .compound "NOT" [.compound "WILD" (["age", ">=", "18"].map .literal)]]

theorem regular_mixedCondition : Regular mixedCondition := by
  refine .junction (Or.inl rfl) fun o ho => ?_
  simp only [List.mem_cons, List.not_mem_nil, or_false] at ho
  rcases ho with rfl | rfl | rfl
  · exact .fields _
  · exact .literal _
  · exact .negation (.verbatim _ (by decide) (by decide) (by decide))

theorem a_mixed_condition_keeps_its_meaning :
    Regular mixedCondition ∧ (∀ t ∈ mixedCondition.texts, Plain t.toList) ∧
      compile .allFields mixedCondition =
        .ok "((city:NY) AND ((type:a) OR (type:b))) AND (NOT (age >= 18))" ∧
      ∃ r, (∀ s, Reads "((city:NY) AND ((type:a) OR (type:b))) AND (NOT (age >= 18))" s ↔ s = r) ∧
        ∀ truth, r.holds truth =
          (truth "city:NY" && (truth "type:a" || truth "type:b") && !truth "age >= 18") := by
  have hplain : ∀ t ∈ mixedCondition.texts, Plain t.toList := by decide
  have hcompile : compile .allFields mixedCondition =
      .ok "((city:NY) AND ((type:a) OR (type:b))) AND (NOT (age >= 18))" := rfl
  refine ⟨regular_mixedCondition, hplain, hcompile, ?_⟩
  rcases compiled_text_has_one_reading_with_the_same_meaning .allFields
    regular_mixedCondition hplain with ⟨hempty, -⟩ | ⟨text, r, htext, hone, hmeaning⟩
  · exact absurd (Except.ok.inj (hcompile.symm.trans hempty)) (by decide)
  · cases hcompile.symm.trans htext
    refine ⟨r, hone, fun truth => ?_⟩
    have hvalue : mixedCondition.meaning .allFields truth =
        some (truth "city:NY" && (truth "type:a" || truth "type:b") && !truth "age >= 18") := rfl
    exact Option.some.inj ((hmeaning truth).symm.trans hvalue)

end Condition

end SearchQuery
