-- Trees of conditions: induction over them, the texts that they hold, the conditions inside
-- them, and what one step of the compiler does with the texts of the operands.
import Mathlib.Data.List.Basic
import SearchQuery.Condition.Compile

namespace SearchQuery

/-! ## Trees -/

namespace Condition

/-- Induction over a condition: a compound one has the property if all its operands do. -/
@[elab_as_elim]
theorem treeInduction {p : Condition → Prop} (literal : ∀ text, p (.literal text))
    (fields : ∀ entries, p (.fields entries))
    (compound : ∀ name operands, (∀ o ∈ operands, p o) → p (.compound name operands)) :
    ∀ c, p c
  | .literal text => literal text
  | .fields entries => fields entries
  | .compound name operands =>
    compound name operands fun o _ => treeInduction literal fields compound o

/-- A condition stands somewhere in another one, or is the other one itself. -/
inductive Within (c : Condition) : Condition → Prop
  | whole : Within c c
  | operand {name : String} {operands : List Condition} {o : Condition} :
      o ∈ operands → Within c o → Within c (.compound name operands)

theorem within_literal_iff {c : Condition} {text : String} :
    Within c (.literal text) ↔ c = .literal text := by
  refine ⟨fun h => ?_, fun h => h ▸ .whole⟩
  cases h
  rfl

theorem within_fields_iff {c : Condition} {entries : List (String × FieldValue)} :
    Within c (.fields entries) ↔ c = .fields entries := by
  refine ⟨fun h => ?_, fun h => h ▸ .whole⟩
  cases h
  rfl

/-- What stands in a compound condition is the condition, or stands in one of its operands. -/
theorem within_compound_iff {c : Condition} {name : String} {operands : List Condition} :
    Within c (.compound name operands) ↔
      c = .compound name operands ∨ ∃ o ∈ operands, Within c o := by
  constructor
  · intro h
    cases h with
    | whole => exact Or.inl rfl
    | operand ho h => exact Or.inr ⟨_, ho, h⟩
  · rintro (rfl | ⟨o, ho, h⟩)
    · exact .whole
    · exact .operand ho h

end Condition

/-- The texts of a field's value. -/
def FieldValue.texts : FieldValue → List String
  | .absent => []
  | .one text => [text]
  | .many texts => texts

namespace Condition

mutual
/-- Every text that a condition holds: query texts, fields and their values, and words. -/
def texts : Condition → List String
  | .literal text => [text]
  | .fields entries => entries.flatMap fun (field, value) => field :: value.texts
  | .compound name operands => name :: textsAll operands
/-- Every text of several conditions. -/
def textsAll : List Condition → List String
  | [] => []
  | c :: cs => texts c ++ textsAll cs
end

theorem mem_textsAll {t : String} {cs : List Condition} :
    t ∈ textsAll cs ↔ ∃ c ∈ cs, t ∈ c.texts := by
  induction cs with
  | nil => simp [textsAll]
  | cons c cs ih => simp [textsAll, ih]

theorem name_mem_texts (name : String) (operands : List Condition) :
    name ∈ (compound name operands).texts := by
  simp [texts]

theorem mem_texts_of_field {entries : List (String × FieldValue)} {entry : String × FieldValue}
    (h : entry ∈ entries) : entry.1 ∈ (fields entries).texts := by
  rw [texts]
  exact List.mem_flatMap.mpr ⟨entry, h, List.mem_cons_self⟩

theorem mem_texts_of_value {entries : List (String × FieldValue)} {entry : String × FieldValue}
    {t : String} (h : entry ∈ entries) (ht : t ∈ entry.2.texts) : t ∈ (fields entries).texts := by
  rw [texts]
  exact List.mem_flatMap.mpr ⟨entry, h, List.mem_cons_of_mem _ ht⟩

theorem texts_of_operand {name : String} {operands : List Condition} {o : Condition}
    (ho : o ∈ operands) : o.texts ⊆ (compound name operands).texts := by
  intro t ht
  rw [texts]
  exact List.mem_cons_of_mem _ (mem_textsAll.mpr ⟨o, ho, ht⟩)

theorem Within.texts_subset {c d : Condition} (h : Within c d) : c.texts ⊆ d.texts := by
  induction h with
  | whole => exact fun _ ht => ht
  | operand ho _ ih => exact fun t ht => texts_of_operand ho (ih ht)

/-! ## One step of the compiler -/

end Condition

/-- The text of an operator from the texts of its operands. -/
def operatorText (name : String) (parts : List String) : Except Fault String :=
  match Operator.ofName? name with
  | some .and | some .or => .ok (junctionText name parts)
  | some .not =>
    match parts with
    | [part] => .ok (negationText name part)
    | _ => .error (.operandCount name)
  | some .wild => .ok (if parts.all (· == "") then "" else " ".intercalate parts)
  | none => .ok (name ++ " " ++ " ".intercalate parts)

/-- Only a negation refuses the texts of its operands, and only if it is not exactly one. -/
theorem operatorText_eq_error_iff {name : String} {parts : List String} {fault : Fault} :
    operatorText name parts = .error fault ↔
      name = "NOT" ∧ parts.length ≠ 1 ∧ fault = .operandCount "NOT" := by
  by_cases hname : name = "NOT"
  · subst hname
    have hop : Operator.ofName? "NOT" = some .not := Operator.ofName?_name .not
    match parts with
    | [] => simp [operatorText, hop, eq_comm]
    | [part] => simp [operatorText, hop]
    | p :: q :: parts => simp [operatorText, hop, eq_comm]
  · have hnot : Operator.ofName? name ≠ some .not := fun h =>
      hname (Operator.ofName?_eq_some_iff.mp h)
    unfold operatorText
    split
    · simp [hname]
    · simp [hname]
    · contradiction
    · simp [hname]
    · simp [hname]

namespace Condition

variable {mode : FieldMode}

/-- Several conditions compile exactly if each of them does, place by place. -/
theorem compileAll_eq_ok_iff {cs : List Condition} {parts : List String} :
    compileAll mode cs = .ok parts ↔ cs.map (compile mode) = parts.map .ok := by
  induction cs generalizing parts with
  | nil => cases parts <;> simp [compileAll]
  | cons c cs ih =>
    rw [compileAll]
    cases hc : compile mode c with
    | error fault => cases parts <;> simp [hc, bind, Except.bind]
    | ok text =>
      cases hcs : compileAll mode cs with
      | error fault =>
        cases parts with
        | nil => simp [bind, Except.bind]
        | cons p parts => simp [bind, Except.bind, hc, ← ih, hcs]
      | ok texts =>
        cases parts with
        | nil => simp [bind, Except.bind]
        | cons p parts => simp [bind, Except.bind, hc, ← ih, hcs]

theorem exists_fault_of_operand {cs : List Condition} {fault : Fault}
    (h : compileAll mode cs = .error fault) : ∃ c ∈ cs, compile mode c = .error fault := by
  induction cs with
  | nil => cases h
  | cons c cs ih =>
    rw [compileAll] at h
    cases hc : compile mode c with
    | error first =>
      rw [hc] at h
      cases h
      exact ⟨c, List.mem_cons_self, hc⟩
    | ok text =>
      cases hcs : compileAll mode cs with
      | error later =>
        rw [hc, hcs] at h
        cases h
        obtain ⟨d, hd, hfault⟩ := ih hcs
        exact ⟨d, List.mem_cons_of_mem _ hd, hfault⟩
      | ok texts =>
        rw [hc, hcs] at h
        cases h

theorem error_of_map {α β : Type} {x : Except Fault α} {f : α → β} {fault : Fault}
    (h : x.map f = .error fault) : x = .error fault := by
  cases x with
  | error first =>
    cases h
    rfl
  | ok a => cases h

/-- Looking for a text that is not empty ends at the first one, or fails as compiling all does. -/
theorem compileAny_cases (mode : FieldMode) (cs : List Condition) :
    match compileAll mode cs with
    | .ok parts => compileAny mode cs = .ok !parts.all (· == "")
    | .error fault => compileAny mode cs = .ok true ∨ compileAny mode cs = .error fault := by
  induction cs with
  | nil => rfl
  | cons c cs ih =>
    rw [compileAll, compileAny]
    cases hc : compile mode c with
    | error fault => exact Or.inr rfl
    | ok text =>
      dsimp only [bind, Except.bind]
      by_cases hempty : text = ""
      · subst hempty
        cases hcs : compileAll mode cs with
        | error fault => simpa [hcs] using ih
        | ok parts => simpa [hcs] using ih
      · cases hcs : compileAll mode cs with
        | error fault => simp [hempty, pure, Except.pure]
        | ok parts => simp [hempty, pure, Except.pure]

/-- All that can go wrong is a negation that wants exactly one operand. -/
theorem fault_of_compile (c : Condition) {fault : Fault} (h : compile mode c = .error fault) :
    fault = .operandCount "NOT" := by
  induction c using treeInduction generalizing fault with
  | literal text => cases h
  | fields entries => cases h
  | compound name operands ih =>
    have hall (first : Fault) (hfirst : compileAll mode operands = .error first) :
        first = .operandCount "NOT" := by
      obtain ⟨o, ho, hfault⟩ := exists_fault_of_operand hfirst
      exact ih o ho hfault
    unfold compile at h
    split at h
    · exact hall fault (error_of_map h)
    · exact hall fault (error_of_map h)
    · next hname =>
      split at h
      · next operand => exact ih operand List.mem_cons_self (error_of_map h)
      · rw [Operator.ofName?_eq_some_iff.mp hname] at h
        cases h
        rfl
    · have hany := compileAny_cases mode operands
      cases hoperands : compileAll mode operands with
      | error first =>
        rw [hoperands] at h hany
        rcases hany with hany | hany <;> rw [hany] at h <;> cases h <;> exact hall _ hoperands
      | ok parts =>
        rw [hoperands] at h hany
        rw [hany] at h
        dsimp only [bind, Except.bind] at h
        split at h <;> cases h
    · exact hall fault (error_of_map h)

/-- In whichever order operands are looked at, a compound condition fails if one of them does. -/
theorem compile_compound_of_error {name : String} {operands : List Condition} {fault : Fault}
    (h : compileAll mode operands = .error fault) :
    compile mode (.compound name operands) = .error fault := by
  obtain ⟨o, ho, hfault⟩ := exists_fault_of_operand h
  obtain rfl := fault_of_compile o hfault
  unfold compile
  rw [h]
  split
  · rfl
  · rfl
  · next hname =>
    split
    · next operand =>
      rw [List.mem_singleton.mp ho] at hfault
      rw [hfault]
      rfl
    · rw [Operator.ofName?_eq_some_iff.mp hname]
      rfl
  · have hany := compileAny_cases mode operands
    rw [h] at hany
    rcases hany with hany | hany <;> rw [hany] <;> rfl
  · rfl

/-- Where all operands have texts, the condition is made of these under its word. -/
theorem compile_compound_of_parts {name : String} {operands : List Condition}
    {parts : List String} (h : compileAll mode operands = .ok parts) :
    compile mode (.compound name operands) = operatorText name parts := by
  have hparts := compileAll_eq_ok_iff.mp h
  unfold compile operatorText
  rw [h]
  cases hname : Operator.ofName? name with
  | none => rfl
  | some op =>
    cases op with
    | and | or => rfl
    | not =>
      match operands, parts, hparts with
      | [], [], _ => rfl
      | [operand], [part], hparts =>
        have hpart : compile mode operand = .ok part := by simpa using hparts
        dsimp only
        rw [hpart]
        rfl
      | [_], _ :: _ :: _, hparts => simp at hparts
      | _ :: _ :: _, [_], hparts => simp at hparts
      | _ :: _ :: _, _ :: _ :: _, _ => rfl
    | wild =>
      have hany := compileAny_cases mode operands
      rw [h] at hany
      dsimp only
      rw [hany]
      cases parts.all (· == "") <;> rfl

/-- The condition comes to what the texts of its operands come to under its word. -/
theorem compile_compound (name : String) (operands : List Condition) :
    compile mode (.compound name operands) =
      compileAll mode operands >>= fun parts => operatorText name parts := by
  cases h : compileAll mode operands with
  | error fault => exact compile_compound_of_error h
  | ok parts => exact compile_compound_of_parts h

/-- A compound condition compiles exactly if its operands do and their texts can stand
under its word. -/
theorem compile_compound_eq_ok_iff {name text : String} {operands : List Condition} :
    compile mode (.compound name operands) = .ok text ↔
      ∃ parts, operands.map (compile mode) = parts.map .ok ∧
        operatorText name parts = .ok text := by
  rw [compile_compound]
  cases h : compileAll mode operands with
  | error fault => simp [bind, Except.bind, ← compileAll_eq_ok_iff, h]
  | ok parts => simp [bind, Except.bind, ← compileAll_eq_ok_iff, h]

/-- Each text of several compiled conditions is the text of one of them. -/
theorem exists_operand_of_part {cs : List Condition} {parts : List String}
    (h : cs.map (compile mode) = parts.map .ok) {p : String} (hp : p ∈ parts) :
    ∃ c ∈ cs, compile mode c = .ok p := by
  have : Except.ok p ∈ cs.map (compile mode) := by
    rw [h]
    exact List.mem_map_of_mem hp
  simpa using this

/-- Each of several compiled conditions has a text among theirs. -/
theorem exists_part_of_operand {cs : List Condition} {parts : List String}
    (h : cs.map (compile mode) = parts.map .ok) {c : Condition} (hc : c ∈ cs) :
    ∃ p ∈ parts, compile mode c = .ok p := by
  have : compile mode c ∈ parts.map Except.ok := by
    rw [← h]
    exact List.mem_map_of_mem hc
  obtain ⟨p, hp, he⟩ := List.mem_map.mp this
  exact ⟨p, hp, he.symm⟩

theorem count_of_parts {cs : List Condition} {parts : List String}
    (h : cs.map (compile mode) = parts.map .ok) : parts.length = cs.length := by
  simpa using (congrArg List.length h).symm

/-- If each of several conditions compiles to a text with a property, they all compile. -/
theorem exists_parts_of_operands {p : Condition → String → Prop} {cs : List Condition}
    (h : ∀ c ∈ cs, ∃ text, compile mode c = .ok text ∧ p c text) :
    ∃ parts, cs.map (compile mode) = parts.map .ok ∧ List.Forall₂ p cs parts := by
  induction cs with
  | nil => exact ⟨[], by simp⟩
  | cons c cs ih =>
    obtain ⟨text, hc, hp⟩ := h c List.mem_cons_self
    obtain ⟨parts, hcs, hps⟩ := ih fun d hd => h d (List.mem_cons_of_mem c hd)
    exact ⟨text :: parts, by simp [hc, hcs], .cons hp hps⟩

theorem exists_parts {cs : List Condition} (h : ∀ c ∈ cs, ∃ text, compile mode c = .ok text) :
    ∃ parts : List String, cs.map (compile mode) = parts.map .ok := by
  obtain ⟨parts, hparts, -⟩ := exists_parts_of_operands (p := fun _ _ => True) fun c hc => by
    obtain ⟨text, htext⟩ := h c hc
    exact ⟨text, htext, trivial⟩
  exact ⟨parts, hparts⟩

/-- Whatever stands in a condition that compiles, compiles. -/
theorem Within.compiles {c d : Condition} (h : Within c d) {text : String}
    (hd : compile mode d = .ok text) : ∃ t, compile mode c = .ok t := by
  induction h generalizing text with
  | whole => exact ⟨text, hd⟩
  | operand ho _ ih =>
    obtain ⟨parts, hparts, -⟩ := compile_compound_eq_ok_iff.mp hd
    obtain ⟨p, -, hp⟩ := exists_part_of_operand hparts ho
    exact ih hp

end Condition

/-! ## The texts of fields -/

/-- The first field with several values, and these. -/
def firstMany? (entries : List (String × FieldValue)) : Option (String × List String) :=
  entries.findSome? fun
    | (field, .many texts) => some (field, texts)
    | _ => none

/-- The first field with several values decides alone; without one, the fields with one
value count, behind the parts that are there already. -/
theorem firstAlternativesText_eq (entries : List (String × FieldValue)) (parts : List String) :
    firstAlternativesText entries parts =
      match firstMany? entries with
      | some (field, texts) => alternatives field texts
      | none => joined "AND" (parts ++ entries.filterMap fieldPart?) := by
  induction entries generalizing parts with
  | nil => simp [firstAlternativesText, firstMany?]
  | cons entry entries ih =>
    obtain ⟨field, value⟩ := entry
    unfold firstMany? at ih ⊢
    cases value with
    | absent => simp [firstAlternativesText, ih, fieldPart?, List.filterMap_cons]
    | one text => simp [firstAlternativesText, ih, fieldPart?]
    | many texts => simp [firstAlternativesText]

/-- In both modes the parts of the fields are joined, unless the first field with several
values decides alone. -/
theorem fieldsText_eq (mode : FieldMode) (entries : List (String × FieldValue)) :
    fieldsText mode entries =
      match mode, firstMany? entries with
      | .firstAlternatives, some (field, texts) => alternatives field texts
      | _, _ => joined "AND" (entries.filterMap fieldPart?) := by
  cases mode with
  | firstAlternatives =>
    rw [fieldsText, firstAlternativesText_eq, List.nil_append]
    cases firstMany? entries with
    | none => rfl
    | some first => rfl
  | allFields => rfl

theorem firstMany?_mem {entries : List (String × FieldValue)} {field : String}
    {texts : List String} (h : firstMany? entries = some (field, texts)) :
    (field, .many texts) ∈ entries := by
  obtain ⟨⟨f, v⟩, hmem, hv⟩ := List.exists_of_findSome?_eq_some h
  cases v <;> simp at hv
  obtain ⟨rfl, rfl⟩ := hv
  exact hmem

theorem fieldPart?_eq_some_iff {entry : String × FieldValue} {part : String} :
    fieldPart? entry = some part ↔
      (∃ text, entry.2 = .one text ∧ part = entry.1 ++ ":" ++ text) ∨
      ∃ texts, entry.2 = .many texts ∧ part ≠ "" ∧ part = alternatives entry.1 texts := by
  obtain ⟨field, value⟩ := entry
  cases value with
  | absent => simp [fieldPart?]
  | one text => simp [fieldPart?, eq_comm]
  | many texts =>
    simp [fieldPart?]
    grind

end SearchQuery
