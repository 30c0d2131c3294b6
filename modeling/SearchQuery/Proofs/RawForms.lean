-- How conditions are written down: texts, maps of fields, and lists or tuples that start with
-- an operator word. Whatever way is taken to write a condition, reading gives it back.
import Mathlib.Data.List.Forall2
import SearchQuery.Condition.Parse
import SearchQuery.Entries
import SearchQuery.Proofs.ConditionTrees
import SearchQuery.Value.Equality

namespace SearchQuery

/-! ## Words in any case -/

/-- A word of ASCII characters, none of them a small letter. -/
def IsCapital (word : String) : Prop := ∀ d ∈ word.toList, d.toNat < 128 ∧ ¬ d.isLower

/-- A token spells a word: each letter is that of the word or its small form. -/
def Spells (token word : String) : Prop :=
  List.Forall₂ (fun c d => c = d ∨ c = d.toLower) token.toList word.toList

instance (word : String) : Decidable (IsCapital word) :=
  List.decidableBAll _ word.toList

instance (token word : String) : Decidable (Spells token word) :=
  inferInstanceAs (Decidable (List.Forall₂ _ _ _))

theorem spells_self (word : String) : Spells word word :=
  List.forall₂_same.mpr fun _ _ => Or.inl rfl

theorem upperChar_of_spelled {c d : Char} (hd : d.toNat < 128 ∧ ¬ d.isLower)
    (hc : c = d ∨ c = d.toLower) : Text.upperChar c = [d] := by
  have hascii : ∀ n < 128, ¬ (Char.ofNat n).isLower →
      Text.upperChar (Char.ofNat n) = [Char.ofNat n] ∧
        Text.upperChar (Char.ofNat n).toLower = [Char.ofNat n] := by decide
  obtain ⟨hsame, hsmall⟩ := hascii d.toNat hd.1 (by rw [Char.ofNat_toNat]; exact hd.2)
  rw [Char.ofNat_toNat] at hsame hsmall
  rcases hc with rfl | rfl
  · exact hsame
  · exact hsmall

/-- A token in any case is the word in capitals. -/
theorem upper_of_spells {token word : String} (hword : IsCapital word) (h : Spells token word) :
    Text.upper token = word := by
  have hletters : ∀ {cs ds : List Char}, List.Forall₂ (fun c d => c = d ∨ c = d.toLower) cs ds →
      (∀ d ∈ ds, d.toNat < 128 ∧ ¬ d.isLower) → cs.flatMap Text.upperChar = ds := by
    intro cs ds hspelled
    induction hspelled with
    | nil => simp
    | cons hc _ ih =>
      intro hds
      rw [List.flatMap_cons, upperChar_of_spelled (hds _ List.mem_cons_self) hc,
        ih fun d hd => hds d (List.mem_cons_of_mem _ hd)]
      rfl
  rw [Text.upper, hletters h hword, String.ofList_toList]

/-! ## Ways to write -/

/-- A list or a tuple, and its items. -/
inductive Value.Row : Value → List Value → Prop
  | list (items : List Value) : Row (.list items) items
  | tuple (items : List Value) : Row (.tuple items) items

/-- A way to write what a field is asked for. -/
inductive FieldValue.Writes : Value → FieldValue → Prop
  | absent : Writes .null .absent
  | one (text : String) : Writes (.text text) (.one text)
  | many {v : Value} {texts : List String} : v.Row (texts.map .text) → Writes v (.many texts)

namespace Condition

/-- A way to write an entry of a map of fields. -/
def WritesEntry (written : Value × Value) (entry : String × FieldValue) : Prop :=
  written.1 = .text entry.1 ∧ FieldValue.Writes written.2 entry.2

/-- A way to write a condition. A map gets its entries one after the other. -/
inductive Writes : Value → Condition → Prop
  | literal (text : String) : Writes (.text text) (.literal text)
  | fields {written : List (Value × Value)} {entries : List (String × FieldValue)} :
      List.Forall₂ WritesEntry written entries →
      Writes (.map (Entries.ofList written)) (.fields entries)
  | nothing {v : Value} : v.Row [] → Writes v nothing
  | compound {v : Value} {token name : String} {items : List Value} {operands : List Condition} :
      v.Row (.text token :: items) → Spells token name → List.Forall₂ Writes items operands →
      Writes v (.compound name operands)

/-- A condition that can be told from what is written: its words are in capitals, and no map
of fields names a field twice. -/
inductive Writable : Condition → Prop
  | literal (text : String) : Writable (.literal text)
  | fields {entries : List (String × FieldValue)} :
      (Entries.keys entries).Nodup → Writable (.fields entries)
  | compound {name : String} {operands : List Condition} :
      IsCapital name → (∀ o ∈ operands, Writable o) → Writable (.compound name operands)

theorem exists_forall₂ {α β : Type} {r : α → β → Prop} {bs : List β} (h : ∀ b ∈ bs, ∃ a, r a b) :
    ∃ as, List.Forall₂ r as bs := by
  induction bs with
  | nil => exact ⟨[], .nil⟩
  | cons b bs ih =>
    obtain ⟨a, ha⟩ := h b List.mem_cons_self
    obtain ⟨as, has⟩ := ih fun c hc => h c (List.mem_cons_of_mem b hc)
    exact ⟨a :: as, .cons ha has⟩

theorem exists_writesEntry (entry : String × FieldValue) :
    ∃ written, WritesEntry written entry := by
  obtain ⟨field, value⟩ := entry
  cases value with
  | absent => exact ⟨(.text field, .null), rfl, .absent⟩
  | one text => exact ⟨(.text field, .text text), rfl, .one text⟩
  | many texts => exact ⟨(.text field, .list (texts.map .text)), rfl, .many (.list _)⟩

/-- Every condition can be written. -/
theorem exists_writes (c : Condition) : ∃ v, Writes v c := by
  induction c using treeInduction with
  | literal text => exact ⟨_, .literal text⟩
  | fields entries =>
    obtain ⟨written, hwritten⟩ := exists_forall₂ fun entry (_ : entry ∈ entries) =>
      exists_writesEntry entry
    exact ⟨_, .fields hwritten⟩
  | compound name operands ih =>
    obtain ⟨items, hitems⟩ := exists_forall₂ ih
    exact ⟨_, .compound (.list _) (spells_self name) hitems⟩

/-! ## Reading -/

theorem ofOperand_row {v : Value} {items : List Value} (h : v.Row items) :
    ofOperand v = ofSequence items := by
  cases h <;> rw [ofOperand]

/-- A way to write is read alike as a whole and as an operand. -/
theorem ofValue_of_writes {v : Value} {c : Condition} (h : Writes v c) :
    ofValue v = ofOperand v := by
  cases h with
  | literal text => rfl
  | fields hentries => rfl
  | nothing hrow => cases hrow <;> rfl
  | compound hrow _ _ => cases hrow <;> rfl

theorem fieldValue_of_writes {v : Value} {value : FieldValue} (h : FieldValue.Writes v value) :
    FieldValue.ofValue v = value := by
  cases h with
  | absent => rfl
  | one text => rfl
  | many hrow =>
    have hread : ∀ texts : List String, (texts.map .text).map Value.queryText = texts := by
      intro texts
      simp [Function.comp_def]
    cases hrow with
    | list => rw [FieldValue.ofValue, hread]
    | tuple => rw [FieldValue.ofValue, hread]

theorem keys_of_writes {written : List (Value × Value)} {entries : List (String × FieldValue)}
    (h : List.Forall₂ WritesEntry written entries) :
    Entries.keys written = (Entries.keys entries).map .text := by
  induction h with
  | nil => rfl
  | cons hentry _ ih => simp [Entries.keys, hentry.1] at ih ⊢; exact ih

theorem ofEntries_of_writes {written : List (Value × Value)}
    {entries : List (String × FieldValue)} (h : List.Forall₂ WritesEntry written entries) :
    ofEntries written = .fields entries := by
  rw [ofEntries]
  congr 1
  induction h with
  | nil => rfl
  | @cons written entry _ _ hentry _ ih =>
    have hread : (written.1.display, FieldValue.ofValue written.2) = entry := by
      rw [hentry.1, fieldValue_of_writes hentry.2, Value.display_text]
    exact List.cons_eq_cons.mpr ⟨hread, ih⟩

/-- Entries of distinct fields make a map of just these entries. -/
theorem ofList_of_writes {written : List (Value × Value)} {entries : List (String × FieldValue)}
    (h : List.Forall₂ WritesEntry written entries) (hkeys : (Entries.keys entries).Nodup) :
    Entries.ofList written = written := by
  apply Entries.ofList_of_distinct
  rw [Entries.Distinct, keys_of_writes h, List.pairwise_map]
  refine hkeys.imp fun {a b} hne => ?_
  rw [Value.text_beq_text]
  exact beq_false_of_ne hne

theorem ofOperands_of_writes {items : List Value} {operands : List Condition}
    (h : List.Forall₂ Writes items operands)
    (hread : ∀ o ∈ operands, ∀ v, Writes v o → ofOperand v = o) : ofOperands items = operands := by
  induction h with
  | nil => rw [ofOperands]
  | @cons v o _ _ hv _ ih =>
    rw [ofOperands, hread o List.mem_cons_self v hv,
      ih fun p hp => hread p (List.mem_cons_of_mem _ hp)]

theorem ofOperand_of_writes {c : Condition} (hc : Writable c) :
    ∀ v, Writes v c → ofOperand v = c := by
  induction hc with
  | literal text =>
    intro v hv
    cases hv
    rfl
  | fields hkeys =>
    intro v hv
    cases hv with
    | fields hentries =>
      rw [ofList_of_writes hentries hkeys, ofOperand, ofEntries_of_writes hentries]
    | nothing hrow =>
      rw [ofOperand_row hrow, ofSequence]
      rfl
  | compound hname _ ih =>
    intro v hv
    cases hv with
    | compound hrow htoken hitems =>
      rw [ofOperand_row hrow, ofSequence, ofOperands_of_writes hitems ih,
        Value.queryText_text, upper_of_spells hname htoken]

/-! ### Nothing is refused -/

theorem short_of_row {v : Value} {items : List Value} (hrow : v.Row items)
    (h : ∀ i ∈ items, i.isOverlong = false) : v.isOverlong = false := by
  cases hrow <;> simpa [Value.isOverlong, Value.anyOverlong_eq_any] using h

theorem short_of_writesField {v : Value} {value : FieldValue} (h : FieldValue.Writes v value) :
    v.isOverlong = false := by
  cases h with
  | absent | one => rfl
  | many hrow => exact short_of_row hrow (by simp [Value.isOverlong])

theorem short_of_writesEntries {written : List (Value × Value)}
    {entries : List (String × FieldValue)} (h : List.Forall₂ WritesEntry written entries) :
    Value.anyOverlongEntry written = false := by
  induction h with
  | nil => rfl
  | cons hentry _ ih =>
    rw [Value.anyOverlongEntry, ih, hentry.1, short_of_writesField hentry.2]
    rfl

theorem short_of_writesOperands {items : List Value} {operands : List Condition}
    (h : List.Forall₂ Writes items operands)
    (hshort : ∀ o ∈ operands, ∀ v, Writes v o → v.isOverlong = false) :
    ∀ i ∈ items, i.isOverlong = false := by
  induction h with
  | nil => simp
  | @cons v o _ _ hv _ ih =>
    exact List.forall_mem_cons.mpr ⟨hshort o List.mem_cons_self v hv,
      ih fun p hp => hshort p (List.mem_cons_of_mem _ hp)⟩

/-- What is written for a condition holds no numbers, so it is not refused. -/
theorem short_of_writes {c : Condition} (hc : Writable c) :
    ∀ v, Writes v c → v.isOverlong = false := by
  induction hc with
  | literal text =>
    intro v hv
    cases hv
    rfl
  | fields hkeys =>
    intro v hv
    cases hv with
    | fields hentries =>
      rw [ofList_of_writes hentries hkeys, Value.isOverlong, short_of_writesEntries hentries]
    | nothing hrow => exact short_of_row hrow (by simp)
  | compound _ _ ih =>
    intro v hv
    cases hv with
    | compound hrow _ hitems =>
      exact short_of_row hrow
        (List.forall_mem_cons.mpr ⟨rfl, short_of_writesOperands hitems ih⟩)

/-- Reading gets every condition back. A condition whose words are in capitals, and whose maps
name no field twice, can be written; and in whatever way it is, with lists or tuples and words
in any case, it is what is read, as a whole and as an operand. -/
theorem reading_gets_every_condition_back {c : Condition} (hc : Writable c) :
    (∃ v, Writes v c) ∧
      ∀ v, Writes v c → read v = .ok c ∧ ofValue v = c ∧ ofOperand v = c := by
  refine ⟨exists_writes c, fun v hv => ?_⟩
  have hoperand := ofOperand_of_writes hc v hv
  have hvalue := (ofValue_of_writes hv).trans hoperand
  exact ⟨(read_of_short (short_of_writes hc v hv)).trans (congrArg _ hvalue), hvalue, hoperand⟩

/-- Fields, a negation, a junction of nothing and a map of nothing under a junction. -/
def bookCondition : Condition :=
  .compound "AND" [.fields [("genre", .many ["sf", "fantasy"]), ("year", .absent)],
    .compound "NOT" [.literal "title:Dune"], .compound "OR" [], nothing]

/-- The condition on books in lists, tuples and words of mixed case. -/
def bookWriting : Value :=
  .tuple [.text "aNd",
    .map (Entries.ofList
      [(.text "genre", .tuple [.text "sf", .text "fantasy"]), (.text "year", .null)]),
    .list [.text "Not", .text "title:Dune"], .tuple [.text "or"], .list []]

theorem writable_bookCondition : Writable bookCondition := by
  refine .compound (by decide) fun o ho => ?_
  simp only [List.mem_cons, List.not_mem_nil, or_false] at ho
  rcases ho with rfl | rfl | rfl | rfl
  · exact .fields (by decide)
  · exact .compound (by decide) fun p hp => by
      rw [List.mem_singleton.mp hp]
      exact .literal _
  · exact .compound (by decide) fun p hp => absurd hp List.not_mem_nil
  · exact .fields .nil

theorem writes_bookWriting : Writes bookWriting bookCondition := by
  have hfields : List.Forall₂ WritesEntry
      [(.text "genre", .tuple [.text "sf", .text "fantasy"]), (.text "year", .null)]
      [("genre", .many ["sf", "fantasy"]), ("year", .absent)] :=
    .cons ⟨rfl, .many (.tuple _)⟩ (.cons ⟨rfl, .absent⟩ .nil)
  refine .compound (.tuple _) (by decide)
    (.cons (.fields hfields) (.cons ?_ (.cons ?_ (.cons ?_ .nil))))
  · exact .compound (.list _) (by decide) (.cons (.literal _) .nil)
  · exact .compound (.tuple _) (by decide) .nil
  · exact .nothing (.list _)

theorem the_condition_on_books_is_read_back :
    Writable bookCondition ∧ Writes bookWriting bookCondition ∧
      read bookWriting = .ok bookCondition ∧ ofValue bookWriting = bookCondition ∧
      ofOperand bookWriting = bookCondition := by
  obtain ⟨-, hread⟩ := reading_gets_every_condition_back writable_bookCondition
  exact ⟨writable_bookCondition, writes_bookWriting, hread bookWriting writes_bookWriting⟩

end Condition

end SearchQuery
