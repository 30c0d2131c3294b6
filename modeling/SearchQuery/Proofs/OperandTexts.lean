-- Operands and their own texts. An operand of a list can be replaced by the text that it has
-- as a condition of its own, at any depth. Only a word of a fixed set has another text in a
-- list: on its own it stands for its characters, in a list for its full name.
import SearchQuery.Proofs.RawForms

namespace SearchQuery

/-- A word of a fixed set: a sort direction or an operator. -/
def Value.isWord : Value → Bool
  | .direction _ | .operator _ => true
  | _ => false

namespace Condition

/-! ## Places of operands -/

/-- A list or a tuple that starts with a token, with a gap in the place of one operand. -/
structure Frame where
  /-- The frame is written as a tuple. -/
  isTuple : Bool
  token : Value
  before : List Value
  after : List Value

/-- The list or the tuple with an operand in the gap. -/
def Frame.fill (f : Frame) (v : Value) : Value :=
  let items := f.token :: (f.before ++ v :: f.after)
  if f.isTuple then .tuple items else .list items

/-- The condition with an operand in the gap of the innermost of several frames, which stand
inside each other, the outermost first. -/
def fillAll (frames : List Frame) (v : Value) : Value := frames.foldr Frame.fill v

theorem ofOperands_eq_map (items : List Value) : ofOperands items = items.map ofOperand := by
  induction items with
  | nil => rfl
  | cons v items ih => rw [ofOperands, ih, List.map_cons]

/-- A list is read alike as a whole and as an operand, and so is a tuple. -/
theorem ofValue_fill (f : Frame) (v : Value) : ofValue (f.fill v) = ofOperand (f.fill v) := by
  unfold Frame.fill
  split <;> rfl

theorem ofOperand_fill (f : Frame) (v : Value) :
    ofOperand (f.fill v) =
      .compound (Text.upper f.token.queryText) ((f.before ++ v :: f.after).map ofOperand) := by
  unfold Frame.fill
  split <;> simp [ofOperand, ofSequence, ofOperands_eq_map]

/-! ## Texts of operands -/

variable (mode : FieldMode)

theorem compileAll_eq_mapM (cs : List Condition) :
    compileAll mode cs = cs.mapM (compile mode) := by
  induction cs with
  | nil => rfl
  | cons c cs ih => rw [compileAll, ih, List.mapM_cons]; rfl

/-- An operand that is no word of a fixed set has the same text on its own. Nothing at all is
an empty text in a list, and no fields on its own. -/
theorem compile_ofOperand {v : Value} (h : v.isWord = false) :
    compile mode (ofOperand v) = compile mode (ofValue v) := by
  cases v with
  | null => cases mode <;> rfl
  | direction | operator => cases h
  | bool | int | float | text | bytes | list | tuple | map | set | frozenSet | moment
  | condition => rfl

/-- On its own a word of a fixed set stands for its characters, in a list for its name. -/
theorem compile_word {v : Value} (h : v.isWord = true) :
    compile mode (ofOperand v) = .ok v.display ∧
      ∃ own, compile mode (ofValue v) = .ok own ∧ own ≠ v.display := by
  cases v with
  | direction d => cases d <;> exact ⟨rfl, _, rfl, by decide⟩
  | operator o => cases o <;> exact ⟨rfl, _, rfl, by decide⟩
  | null | bool | int | float | text | bytes | list | tuple | map | set | frozenSet | moment
  | condition => cases h

variable {mode}

/-- A condition depends on an operand only through the text of the operand. -/
theorem compile_fill {v w : Value}
    (h : compile mode (ofOperand v) = compile mode (ofOperand w)) (f : Frame) :
    compile mode (ofOperand (f.fill v)) = compile mode (ofOperand (f.fill w)) := by
  have hoperands : ((f.before ++ v :: f.after).map ofOperand).mapM (compile mode) =
      ((f.before ++ w :: f.after).map ofOperand).mapM (compile mode) := by
    simp only [List.mapM_map, List.mapM_append, List.mapM_cons, Function.comp_def, h]
  rw [ofOperand_fill, ofOperand_fill, compile_compound, compile_compound, compileAll_eq_mapM,
    compileAll_eq_mapM, hoperands]

/-- The same through any number of frames. -/
theorem compile_fillAll {v w : Value}
    (h : compile mode (ofOperand v) = compile mode (ofOperand w)) (frames : List Frame) :
    compile mode (ofOperand (fillAll frames v)) = compile mode (ofOperand (fillAll frames w)) := by
  induction frames with
  | nil => exact h
  | cons f frames ih => exact compile_fill ih f

/-- The text of a list is made of its token in capitals and the texts of its operands. -/
theorem compile_row {row token : Value} {items : List Value} (hrow : row.Row (token :: items))
    (hitems : ∀ i ∈ items, i.isWord = false) :
    compile mode (ofValue row) =
      (items.mapM fun i => compile mode (ofValue i)).bind
        (operatorText (Text.upper token.queryText)) := by
  have hread : ofValue row = .compound (Text.upper token.queryText) (items.map ofOperand) := by
    cases hrow <;> simp [ofValue, ofOperand, ofSequence, ofOperands_eq_map]
  have htexts : (items.map ofOperand).map (compile mode) =
      items.map fun i => compile mode (ofValue i) := by
    rw [List.map_map]
    exact List.map_congr_left fun i hi => compile_ofOperand mode (hitems i hi)
  have htogether : (items.map ofOperand).mapM (compile mode) =
      items.mapM fun i => compile mode (ofValue i) := by
    simpa [List.mapM_map, Function.comp_def] using congrArg (List.mapM id) htexts
  rw [hread, compile_compound, compileAll_eq_mapM, htogether]
  rfl

theorem isOverlong_fill {v w : Value} (h : v.isOverlong = w.isOverlong) (f : Frame) :
    (f.fill v).isOverlong = (f.fill w).isOverlong := by
  unfold Frame.fill
  split <;> simp [Value.isOverlong, Value.anyOverlong_eq_any, h]

/-- Frames are refused for their own numbers and for those of the operand in them. -/
theorem isOverlong_fillAll {v w : Value} (h : v.isOverlong = w.isOverlong)
    (frames : List Frame) : (fillAll frames v).isOverlong = (fillAll frames w).isOverlong := by
  induction frames with
  | nil => exact h
  | cons f frames ih => exact isOverlong_fill ih f

/-- Two values that are refused alike and compile alike cannot be told apart. -/
theorem read_compile_congr {v w : Value} (hlong : v.isOverlong = w.isOverlong)
    (h : compile mode (ofValue v) = compile mode (ofValue w)) :
    read v >>= compile mode = read w >>= compile mode := by
  unfold read
  rw [← hlong]
  split
  · rfl
  · exact h

/-- An operand counts only by its text. Where an operand of a list, at any depth, has a text as
a condition of its own, the text can take its place; so the text of a list is made of its
token in capitals and the texts that its operands have on their own. Words of a fixed set are
the exception: in a list they go by their full names, which are not their texts. A list with
the text in that place is refused for the same numbers as before. -/
theorem an_operand_counts_only_by_its_text (mode : FieldMode) :
    (∀ (frames : List Frame) (v : Value) (text : String), frames ≠ [] → v.isWord = false →
      compile mode (ofValue v) = .ok text →
      compile mode (ofValue (fillAll frames v)) =
          compile mode (ofValue (fillAll frames (.text text))) ∧
        (v.isOverlong = false → read (fillAll frames v) >>= compile mode =
          read (fillAll frames (.text text)) >>= compile mode)) ∧
    (∀ (row token : Value) (items : List Value), row.Row (token :: items) →
      (∀ i ∈ items, i.isWord = false) →
      compile mode (ofValue row) =
        (items.mapM fun i => compile mode (ofValue i)).bind
          (operatorText (Text.upper token.queryText))) ∧
    ∀ v : Value, v.isWord = true →
      ∃ own, compile mode (ofValue v) = .ok own ∧ own ≠ v.display ∧
        ∀ frames : List Frame, frames ≠ [] →
          compile mode (ofValue (fillAll frames v)) =
            compile mode (ofValue (fillAll frames (.text v.display))) := by
  have hreplaced : ∀ (frames : List Frame) (v : Value) (text : String), frames ≠ [] →
      compile mode (ofOperand v) = .ok text →
      compile mode (ofValue (fillAll frames v)) =
        compile mode (ofValue (fillAll frames (.text text))) := by
    rintro (_ | ⟨f, frames⟩) v text hne hv
    · contradiction
    · have hsame : compile mode (ofOperand v) = compile mode (ofOperand (.text text)) := hv
      rw [fillAll, fillAll, List.foldr_cons, List.foldr_cons, ofValue_fill, ofValue_fill]
      exact compile_fill (compile_fillAll hsame frames) f
  refine ⟨fun frames v text hne hword hv => ?_, fun row token items => compile_row,
    fun v hword => ?_⟩
  · have hsame := hreplaced frames v text hne ((compile_ofOperand mode hword).trans hv)
    exact ⟨hsame, fun hshort =>
      read_compile_congr (isOverlong_fillAll (w := .text text) hshort frames) hsame⟩
  · obtain ⟨hname, own, hown, hother⟩ := compile_word mode hword
    exact ⟨own, hown, hother, fun frames hne => hreplaced frames v v.display hne hname⟩

/-- Fields with several values under a negation that is written as a tuple. -/
theorem alternatives_under_a_negation_are_replaced_by_their_text :
    let frames : List Frame :=
      [⟨false, .text "or", [.null, .text "a:1"], []⟩, ⟨true, .text "Not", [], []⟩]
    let v : Value := .map [(.text "type", .list [.text "a", .text "b"])]
    frames ≠ [] ∧ v.isWord = false ∧
      compile .allFields (ofValue v) = .ok "(type:a) OR (type:b)" ∧
      compile .allFields (ofValue (fillAll frames v)) =
        compile .allFields (ofValue (fillAll frames (.text "(type:a) OR (type:b)"))) ∧
      compile .allFields (ofValue (fillAll frames v)) =
        .ok "(a:1) OR (NOT ((type:a) OR (type:b)))" := by
  intro frames v
  have hne : frames ≠ [] := List.cons_ne_nil _ _
  have hv : compile .allFields (ofValue v) = .ok "(type:a) OR (type:b)" := rfl
  obtain ⟨hreplaced, -, -⟩ := an_operand_counts_only_by_its_text .allFields
  exact ⟨hne, rfl, hv, (hreplaced frames v _ hne rfl hv).1, rfl⟩

/-- The operator for any of several is a text of two letters on its own, but not as an operand. -/
theorem an_operator_as_an_operand_goes_by_its_full_name :
    let frames : List Frame := [⟨false, .text "AND", [], []⟩]
    compile .firstAlternatives (ofValue (.operator .or)) = .ok "OR" ∧
      compile .firstAlternatives (ofValue (fillAll frames (.operator .or))) =
        .ok "(Operator.OR)" ∧
      compile .firstAlternatives (ofValue (fillAll frames (.text "OR"))) = .ok "(OR)" ∧
      compile .firstAlternatives (ofValue (fillAll frames (.operator .or))) ≠
        compile .firstAlternatives (ofValue (fillAll frames (.text "OR"))) := by
  intro frames
  have hname : compile .firstAlternatives (ofValue (fillAll frames (.operator .or))) =
      .ok "(Operator.OR)" := rfl
  have htext : compile .firstAlternatives (ofValue (fillAll frames (.text "OR"))) =
      .ok "(OR)" := rfl
  refine ⟨rfl, hname, htext, ?_⟩
  rw [hname, htext]
  simp

end Condition

end SearchQuery
