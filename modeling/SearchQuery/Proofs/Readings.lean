-- How query texts are read: atoms, negations and junctions, with everything that is put
-- together in parentheses. No text can be read in two ways.
import SearchQuery.Proofs.Balance

namespace SearchQuery

open Text

/-! ## Readings -/

/-- The two ways of joining. -/
inductive Joint where
  | all | any
  deriving DecidableEq, Repr

namespace Joint

/-- The word between parts that are joined. -/
def word : Joint → String
  | .all => "AND"
  | .any => "OR"

/-- What two joined parts come to. -/
def join : Joint → Bool → Bool → Bool
  | .all => (· && ·)
  | .any => (· || ·)

/-- What any number of joined parts comes to. -/
def joinAll : Joint → List Bool → Bool
  | .all, bs => bs.all id
  | .any, bs => bs.any id

theorem joinAll_singleton (j : Joint) (b : Bool) : j.joinAll [b] = b := by
  cases j <;> simp [joinAll]

theorem joinAll_cons (j : Joint) (b : Bool) (bs : List Bool) :
    j.joinAll (b :: bs) = j.join b (j.joinAll bs) := by
  cases j <;> simp [joinAll, join]

theorem plain_word (j : Joint) : Plain j.word.toList := by
  cases j <;> decide

end Joint

/-- A query text as it is understood. -/
inductive QueryReading where
  /-- A text that is looked for as it is. -/
  | atom (text : String)
  | negation (r : QueryReading)
  | junction (j : Joint) (parts : List QueryReading)

namespace QueryReading

mutual
/-- Whether a reading holds when some atoms hold and others do not. -/
def holds (truth : String → Bool) : QueryReading → Bool
  | .atom text => truth text
  | .negation r => !holds truth r
  | .junction j parts => j.joinAll (holdsAll truth parts)
/-- Which of several readings hold. -/
def holdsAll (truth : String → Bool) : List QueryReading → List Bool
  | [] => []
  | r :: rs => holds truth r :: holdsAll truth rs
end

theorem holdsAll_eq_map (truth : String → Bool) (rs : List QueryReading) :
    holdsAll truth rs = rs.map (holds truth) := by
  induction rs with
  | nil => simp [holdsAll]
  | cons r rs ih => simp [holdsAll, ih]

end QueryReading

/-- A text can be read in some way. -/
inductive Reads : String → QueryReading → Prop
  | atom {text : String} : text ≠ "" → Plain text.toList → Reads text (.atom text)
  | negation {text : String} {r : QueryReading} :
      Reads text r → Reads ("NOT (" ++ text ++ ")") (.negation r)
  | content {text : String} {r : QueryReading} : Reads text r → Reads ("(" ++ text ++ ")") r
  | junction (j : Joint) (parts : List (String × QueryReading)) : 2 ≤ parts.length →
      (∀ p ∈ parts, Reads p.1 p.2) →
      Reads (groups j.word (parts.map (·.1))) (.junction j (parts.map (·.2)))

/-! ## A text that can be read is balanced -/

namespace Reads

theorem balanced {text : String} {r : QueryReading} (h : Reads text r) : Balanced text.toList := by
  induction h with
  | atom _ hplain => exact hplain.balanced
  | negation _ ih =>
    have hword : Plain "NOT ".toList := by decide
    have := hword.balanced.append ih.inGroup
    simpa using this
  | content _ ih => simpa using ih.inGroup
  | junction j parts _ _ ih =>
    apply balanced_groups j.plain_word
    intro e he
    obtain ⟨p, hp, rfl⟩ := List.mem_map.mp he
    exact ih p hp

theorem balanced_parts {parts : List (String × QueryReading)} (h : ∀ p ∈ parts, Reads p.1 p.2) :
    ∀ e ∈ parts.map (·.1), Balanced e.toList := by
  intro e he
  obtain ⟨p, hp, rfl⟩ := List.mem_map.mp he
  exact (h p hp).balanced

theorem ne_empty {text : String} {r : QueryReading} (h : Reads text r) : text ≠ "" := by
  cases h with
  | atom hne _ => exact hne
  | negation h => simp [← String.toList_inj]
  | content h => simp [← String.toList_inj]
  | junction j parts hlen _ =>
    match parts with
    | p :: q :: parts => simp [groups_cons_cons, ← String.toList_inj]

end Reads

/-! ## One reading -/

/-- Groups start with a parenthesis. -/
theorem groups_eq_open (word e : String) (es : List String) :
    ∃ rest, (groups word (e :: es)).toList = '(' :: rest := by
  cases es with
  | nil => exact ⟨e.toList ++ [')'], by simp [groups]⟩
  | cons f es =>
    refine ⟨e.toList ++ ')' :: ' ' :: (word.toList ++ ' ' :: (groups word (f :: es)).toList), ?_⟩
    simp [groups_cons_cons]

theorem not_plain_of_open {rest : List Char} : ¬ Plain ('(' :: rest) :=
  fun h => h.1 List.mem_cons_self

/-- Between the same groups, another word makes another text. -/
theorem word_of_groups {i j : Joint} {es : List String} (hlen : 2 ≤ es.length)
    (h : groups i.word es = groups j.word es) : i = j := by
  match es with
  | e :: f :: es =>
    rw [groups_cons_cons, groups_cons_cons, ← String.toList_inj] at h
    cases i <;> cases j <;> simp [Joint.word] at h ⊢

namespace Reads

theorem of_plain {text : String} {r : QueryReading} (hplain : Plain text.toList)
    (h : Reads text r) : r = .atom text := by
  cases h with
  | atom _ _ => rfl
  | @negation text _ _ =>
    have : '(' ∈ ("NOT (" ++ text ++ ")").toList := by simp
    exact absurd this hplain.1
  | @content text _ _ =>
    have : '(' ∈ ("(" ++ text ++ ")").toList := by simp
    exact absurd this hplain.1
  | junction j parts hlen _ =>
    match parts with
    | p :: parts =>
      obtain ⟨rest, hrest⟩ := groups_eq_open j.word p.1 (parts.map (·.1))
      rw [List.map_cons, hrest] at hplain
      exact absurd hplain not_plain_of_open

theorem of_negation {text : String} {r : QueryReading}
    (h : Reads ("NOT (" ++ text ++ ")") r) :
    ∃ r', Reads text r' ∧ r = .negation r' := by
  generalize hs : "NOT (" ++ text ++ ")" = s at h
  cases h with
  | atom _ hplain =>
    have : '(' ∈ s.toList := by simp [← hs]
    exact absurd this hplain.1
  | @negation text' r' h' =>
    rw [← String.toList_inj] at hs
    have : text = text' := by simpa [String.toList_inj] using hs
    exact ⟨r', this ▸ h', rfl⟩
  | content _ =>
    rw [← String.toList_inj] at hs
    simp at hs
  | junction j parts hlen _ =>
    match parts with
    | p :: parts =>
      obtain ⟨rest, hrest⟩ := groups_eq_open j.word p.1 (parts.map (·.1))
      rw [← String.toList_inj, List.map_cons, hrest] at hs
      simp at hs

/-- A text of groups is read group by group: a single one as what stands in it, several as
a junction under their word. -/
theorem of_groups {j : Joint} {e : String} {es : List String} {r : QueryReading}
    (hb : ∀ f ∈ e :: es, Balanced f.toList) (h : Reads (groups j.word (e :: es)) r) :
    (es = [] ∧ Reads e r) ∨
      ∃ parts : List (String × QueryReading), 2 ≤ parts.length ∧ e :: es = parts.map (·.1) ∧
        (∀ p ∈ parts, Reads p.1 p.2) ∧ r = .junction j (parts.map (·.2)) := by
  have hcut := topGroups_groups j.plain_word hb
  obtain ⟨rest, hrest⟩ := groups_eq_open j.word e es
  generalize hs : groups j.word (e :: es) = s at h hcut hrest
  cases h with
  | atom _ hplain =>
    rw [hrest] at hplain
    exact absurd hplain not_plain_of_open
  | negation _ => simp at hrest
  | @content text _ h' =>
    have hone : topGroups (groups j.word [text]) = [text] :=
      topGroups_groups j.plain_word (by simpa using h'.balanced)
    have : e :: es = [text] := hcut.symm.trans hone
    cases this
    exact Or.inl ⟨rfl, h'⟩
  | junction i parts hlen each =>
    have heq : e :: es = parts.map (·.1) :=
      hcut.symm.trans (topGroups_groups i.plain_word (balanced_parts each))
    rw [heq] at hs
    have hij : j = i := word_of_groups (by simpa using hlen) hs
    exact Or.inr ⟨parts, hlen, heq, each, by rw [hij]⟩

/-- Parts with the same texts are the same parts if each text can be read in one way only. -/
theorem parts_unique {ps qs : List (String × QueryReading)} (heq : ps.map (·.1) = qs.map (·.1))
    (hone : ∀ p ∈ ps, ∀ r, Reads p.1 r → r = p.2) (hqs : ∀ q ∈ qs, Reads q.1 q.2) :
    qs = ps := by
  induction ps generalizing qs with
  | nil => simpa using heq.symm
  | cons p ps ih =>
    cases qs with
    | nil => simp at heq
    | cons q qs =>
      simp only [List.map_cons, List.cons.injEq] at heq
      have hq := hone p List.mem_cons_self q.2 (heq.1 ▸ hqs q List.mem_cons_self)
      have hrest := ih heq.2 (fun x hx => hone x (List.mem_cons_of_mem p hx))
        fun x hx => hqs x (List.mem_cons_of_mem q hx)
      rw [hrest, Prod.ext heq.1.symm hq]

/-- No text can be read in two ways. -/
theorem unique {text : String} {r s : QueryReading} (h : Reads text r) (h' : Reads text s) :
    s = r := by
  induction h generalizing s with
  | atom _ hplain => exact of_plain hplain h'
  | negation _ ih =>
    obtain ⟨s', hs', rfl⟩ := of_negation h'
    rw [ih hs']
  | content h ih =>
    have hb := h.balanced
    rcases @of_groups .all _ [] _ (by simpa using hb) h' with ⟨-, hs⟩ | ⟨parts, hlen, heq, -⟩
    · exact ih hs
    · have := congrArg List.length heq
      simp at this
      omega
  | junction j parts hlen each ih =>
    match parts with
    | p :: q :: parts =>
      rcases of_groups (balanced_parts each) h' with ⟨hnil, -⟩ | ⟨parts', -, heq, each', rfl⟩
      · simp at hnil
      · have hparts := @parts_unique (p :: q :: parts) _ heq (fun x hx r hr => ih x hx hr) each'
        rw [hparts]

end Reads

end SearchQuery
