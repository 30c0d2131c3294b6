-- Findings under the values of a column. Each value that comes in the column is a key once, where
-- it came first, and holds what the last row with it was made into. A value that cannot be a key
-- ends the matter.
import SearchQuery.Proofs.Findings
import SearchQuery.Proofs.ValueKeys

namespace SearchQuery

/-! ## Maps whose keys are compared fairly -/

namespace Entries

variable {κ α : Type} [BEq κ]

/-- Among some keys, being the same is reflexive, symmetric and transitive. -/
structure Fair (p : κ → Prop) : Prop where
  refl {a : κ} : p a → a == a
  symm {a b : κ} : p a → a == b → b == a
  trans {a b c : κ} : p a → a == b → b == c → a == c

/-- What is there under a key after all entries: the last one that has the key. -/
def last? (key : κ) (entries : List (κ × α)) : Option α := entries.reverse.lookup key

theorem last?_append (key k : κ) (v : α) (entries : List (κ × α)) :
    last? key (entries ++ [(k, v)]) = if key == k then some v else last? key entries := by
  rw [last?, List.reverse_append, List.reverse_singleton, List.singleton_append, List.lookup_cons]
  cases key == k <;> rfl

/-- A key that is put comes last, unless one that is the same is there. -/
theorem keys_put_any (k : κ) (v : α) (entries : List (κ × α)) :
    keys (put k v entries) =
      if (keys entries).any (· == k) then keys entries else keys entries ++ [k] := by
  induction entries with
  | nil => rfl
  | cons entry rest ih =>
    obtain ⟨l, w⟩ := entry
    rw [put]
    cases hl : l == k with
    | true => simp [keys_cons, hl]
    | false =>
      rw [if_neg Bool.false_ne_true, keys_cons, keys_cons, ih, List.any_cons, hl, Bool.false_or]
      split <;> rfl

theorem ofList_append (entries : List (κ × α)) (k : κ) (v : α) :
    ofList (entries ++ [(k, v)]) = put k v (ofList entries) := by
  rw [ofList, ofList, update, List.foldl_append]
  rfl

section

variable {p : κ → Prop} (h : Fair p)
include h

theorem Fair.beq_comm {a b : κ} (ha : p a) (hb : p b) : (a == b) = (b == a) :=
  Bool.eq_iff_iff.mpr ⟨h.symm ha, h.symm hb⟩

theorem keys_update {entries more : List (κ × α)} (hp : ∀ k ∈ keys more, p k) :
    keys (update entries more) =
      keys entries ++ ((keys more).filter fun k => !(keys entries).any (· == k)).eraseDups := by
  induction more generalizing entries with
  | nil => simp [update, keys]
  | cons entry more ih =>
    obtain ⟨k, v⟩ := entry
    rw [keys_cons, List.forall_mem_cons] at hp
    have hput : update entries ((k, v) :: more) = update (put k v entries) more := rfl
    rw [hput, ih hp.2, keys_put_any, keys_cons]
    cases hany : (keys entries).any (· == k) with
    | true => rw [if_pos rfl, List.filter_cons_of_neg (by simp [hany])]
    | false =>
      have hrest : (keys more).filter (fun l => !(keys entries ++ [k]).any (· == l)) =
          ((keys more).filter fun l => !(keys entries).any (· == l)).filter (!· == k) := by
        rw [List.filter_filter]
        refine List.filter_congr fun l hl => ?_
        rw [List.any_append, List.any_cons, List.any_nil, Bool.or_false, Bool.not_or,
          h.beq_comm hp.1 (hp.2 l hl), Bool.and_comm]
      rw [if_neg Bool.false_ne_true, List.filter_cons_of_pos (by simp [hany]), List.eraseDups_cons,
        hrest, List.append_assoc, List.singleton_append]

/-- The keys of a map are those of its entries without repetition, each where it came first. -/
theorem keys_ofList {entries : List (κ × α)} (hp : ∀ k ∈ keys entries, p k) :
    keys (ofList entries) = (keys entries).eraseDups := by
  have hall : (keys entries).filter (fun k => !(keys ([] : List (κ × α))).any (· == k)) =
      keys entries := List.filter_eq_self.mpr fun _ _ => rfl
  rw [ofList, keys_update h hp, hall]
  rfl

/-- What is in a map behind a put was put just now, or was there under another key. -/
theorem mem_put {entries : List (κ × α)} (hd : Distinct entries)
    (hp : ∀ k ∈ keys entries, p k) {key k : κ} {value v : α} (hkey : p key)
    (hmem : (k, v) ∈ put key value entries) :
    (k == key) = true ∧ v = value ∨ (k == key) = false ∧ (k, v) ∈ entries := by
  induction entries with
  | nil =>
    obtain ⟨rfl, rfl⟩ : k = key ∧ v = value := by simpa [put] using hmem
    exact Or.inl ⟨h.refl hkey, rfl⟩
  | cons entry rest ih =>
    obtain ⟨l, w⟩ := entry
    rw [Distinct, keys_cons, List.pairwise_cons] at hd
    rw [keys_cons, List.forall_mem_cons] at hp
    rw [put] at hmem
    cases hl : l == key with
    | true =>
      rw [hl, if_pos rfl] at hmem
      obtain heq | hrest := List.mem_cons.mp hmem
      · cases heq
        exact Or.inl ⟨hl, rfl⟩
      · refine Or.inr ⟨?_, List.mem_cons_of_mem _ hrest⟩
        have hk : k ∈ keys rest := List.mem_map_of_mem hrest
        cases hkkey : k == key with
        | false => rfl
        | true =>
          have hsame := h.trans hp.1 hl (h.symm (hp.2 k hk) hkkey)
          simp [hd.1 k hk] at hsame
    | false =>
      rw [hl, if_neg Bool.false_ne_true] at hmem
      obtain heq | hrest := List.mem_cons.mp hmem
      · cases heq
        exact Or.inr ⟨hl, List.mem_cons_self⟩
      · obtain hnew | ⟨hother, hold⟩ := ih hd.2 hp.2 hrest
        · exact Or.inl hnew
        · exact Or.inr ⟨hother, List.mem_cons_of_mem _ hold⟩

/-- Each key of a map holds what came with it last. -/
theorem last?_of_mem_ofList {entries : List (κ × α)} (hp : ∀ k ∈ keys entries, p k) {k : κ}
    {v : α} (hmem : (k, v) ∈ ofList entries) : last? k entries = some v := by
  induction entries using List.reverseRecOn generalizing k v with
  | nil => cases hmem
  | append_singleton entries entry ih =>
    obtain ⟨key, value⟩ := entry
    have hkeys : ∀ k ∈ keys entries, p k := fun k hk => hp k (by
      rw [keys, List.map_append]
      exact List.mem_append_left _ hk)
    have hkey : p key := hp key (by simp [keys])
    have hmade : ∀ k ∈ keys (ofList entries), p k := fun k hk => hkeys k (mem_keys_ofList hk)
    rw [ofList_append] at hmem
    rw [last?_append]
    obtain ⟨hsame, rfl⟩ | ⟨hother, hold⟩ := mem_put h (distinct_ofList entries) hmade hkey hmem
    · rw [if_pos hsame]
    · rw [hother, if_neg Bool.false_ne_true]
      exact ih hkeys hold

end

end Entries

theorem Value.fair_isKey : Entries.Fair Value.IsKey where
  refl := IsKey.refl
  symm := IsKey.symm
  trans := IsKey.trans

namespace Session

/-! ## Putting findings under their values -/

/-- What a row has in a column; a row without the column has nothing there. -/
def columnValue (column : String) (row : Fields) : Value := (row.lookup column).getD .null

/-- Either all findings are put under their values, or the first value that cannot be a key
decides. -/
theorem keyed_eq (column : String) (pairs : List (Fields × Found)) (done : List (Value × Found)) :
    keyed column pairs done =
      match (pairs.map (columnValue column ∘ Prod.fst)).findSome? Value.unhashable? with
      | some type => .error (.unhashable type)
      | none => .ok (Entries.update done (pairs.map (Prod.map (columnValue column) id))) := by
  induction pairs generalizing done with
  | nil => rfl
  | cons pair pairs ih =>
    obtain ⟨row, found⟩ := pair
    rw [List.map_cons, Function.comp_apply, List.findSome?_cons]
    cases hkey : (columnValue column row).unhashable? with
    | some type =>
      rw [columnValue] at hkey
      simp [keyed, hkey]
    | none =>
      have hput : keyed column ((row, found) :: pairs) done =
          keyed column pairs (Entries.put (columnValue column row) found done) := by
        rw [columnValue] at hkey
        simp [keyed, hkey, columnValue]
      rw [hput, ih]
      rfl

theorem keyed_rows (column : String) {rows : List Fields} {found : List Found}
    (h : found.length = rows.length) :
    keyed column (rows.zip found) [] =
      match (rows.map (columnValue column)).findSome? Value.unhashable? with
      | some type => .error (.unhashable type)
      | none => .ok (Entries.ofList ((rows.map (columnValue column)).zip found)) := by
  have hrows : (rows.zip found).map (columnValue column ∘ Prod.fst) =
      rows.map (columnValue column) := by
    rw [← List.map_map, List.map_fst_zip (Nat.le_of_eq h.symm)]
  rw [keyed_eq, hrows, List.zip_map_left]
  rfl

/-- What is found is one thing for each row. -/
theorem perform_shape_length {spec : Spec} {rows : List Fields} {s s' : Session} {w w' : World}
    {found : List Found} (h : perform (shape spec rows) s w = ((.ok found, s'), w')) :
    found.length = rows.length := by
  by_cases hasRows : spec.asArray = true ∨ s.type = none
  · rw [perform_shape_rows hasRows] at h
    cases h
    exact List.length_map _
  · obtain ⟨harray, hsome⟩ := not_or.mp hasRows
    obtain ⟨t, htype⟩ := Option.ne_none_iff_exists'.mp hsome
    rw [perform_shape_typed htype (Bool.not_eq_true _ ▸ harray)] at h
    cases hfault : rows.findSome? t.fault? with
    | some fault =>
      rw [RecordType.populateAll_of_some hfault] at h
      cases h
    | none =>
      obtain ⟨records, hrecords, hall⟩ := RecordType.populateAll_of_none hfault
      rw [hall] at h
      cases h
      rw [List.length_map, hrecords.length_eq]

section

variable {spec : Spec} {s s' : Session} {w w' : World} {found : List Found}

/-- What everything is without a column to key it by is what the rows are shaped to. -/
theorem Searched.perform_shape_of_list (x : Searched spec s w)
    (h : perform (fetchAll { spec with indexBy := none }) s w = ((.ok (.list found), s'), w')) :
    perform (shape spec x.rows) x.session x.world = ((.ok found, s'), w') := by
  rcases hshape : perform (shape spec x.rows) x.session x.world with ⟨⟨outcome, s''⟩, w''⟩
  have hrows : perform (Session.rows { spec with indexBy := none }) s w =
      ((.ok x.rows, x.session), x.world) := x.perform_rows
  rw [perform_fetchAll_list hrows hshape rfl] at h
  cases outcome <;> cases h
  rfl

theorem Searched.perform_fetchAll_keyed (x : Searched spec s w) {column : String}
    (hcolumn : spec.indexBy = some column) (hnamed : column ≠ "")
    (hshape : perform (shape spec x.rows) x.session x.world = ((.ok found, s'), w')) :
    perform (fetchAll spec) s w =
      (((keyed column (x.rows.zip found) []).map .keyed, s'), w') := by
  rw [fetchAll, perform_bind_ok x.perform_rows, perform_bind_ok hshape, hcolumn]
  dsimp only
  rw [if_neg (by simpa using hnamed), perform_bind, perform_checked]
  cases keyed column (x.rows.zip found) [] <;> rfl

/-- What stands under the values of a column: each value once, where it came first, with what the
last row of that value was made into. -/
structure Keyed (values : List Value) (found : List Found) (entries : List (Value × Found)) :
    Prop where
  keys : Entries.keys entries = values.eraseDups
  last {key : Value} {f : Found} :
    (key, f) ∈ entries → Entries.last? key (values.zip found) = some f

theorem keyed_ofList {values : List Value} (h : found.length = values.length)
    (hkeys : ∀ v ∈ values, v.IsKey) :
    Keyed values found (Entries.ofList (values.zip found)) := by
  have hzip : Entries.keys (values.zip found) = values := List.map_fst_zip (Nat.le_of_eq h.symm)
  have hp : ∀ k ∈ Entries.keys (values.zip found), k.IsKey := by rwa [hzip]
  constructor
  · rw [Entries.keys_ofList Value.fair_isKey hp, hzip]
  · exact Entries.last?_of_mem_ofList Value.fair_isKey hp

/-- With a column to key it by, everything that a query finds is put under what its rows have in
that column, unless one of them has something there that cannot be a key. Each value is a key
once, where it came first, and what the last row of that value was made into stays. Where no two
rows have the same value, everything stays, in its order. What happens outside is what happens
without the column. -/
theorem the_last_row_of_a_value_stays (x : Searched spec s w) {column : String}
    (hcolumn : spec.indexBy = some column) (hnamed : column ≠ "")
    (hfound : perform (fetchAll { spec with indexBy := none }) s w =
      ((.ok (.list found), s'), w')) :
    let values := x.rows.map (columnValue column)
    ((∃ v ∈ values, v.NoKey) →
      ∃ type, perform (fetchAll spec) s w = ((.error (.unhashable type), s'), w')) ∧
    ((¬ ∃ v ∈ values, v.NoKey) → ∃ entries,
      perform (fetchAll spec) s w = ((.ok (.keyed entries), s'), w') ∧
      ((∀ v ∈ values, v.IsKey) → Keyed values found entries) ∧
      (values.Pairwise (fun a b => (a == b) = false) →
        Entries.keys entries = values ∧ entries.map Prod.snd = found)) := by
  intro values
  have hshape := x.perform_shape_of_list hfound
  have hrows := perform_shape_length hshape
  have hlength : found.length = values.length := by rw [hrows, List.length_map]
  have hkeyed := x.perform_fetchAll_keyed hcolumn hnamed hshape
  rw [keyed_rows column hrows] at hkeyed
  constructor
  · rintro ⟨v, hv, hnoKey⟩
    have hsome : (values.findSome? Value.unhashable?).isSome := by
      rw [List.findSome?_isSome_iff]
      exact ⟨v, hv, hnoKey.unhashable?⟩
    obtain ⟨type, htype⟩ := Option.isSome_iff_exists.mp hsome
    rw [htype] at hkeyed
    exact ⟨type, hkeyed⟩
  · intro hnone
    have hhashable : values.findSome? Value.unhashable? = none := by
      rw [List.findSome?_eq_none_iff]
      intro v hv
      rw [Option.eq_none_iff_forall_not_mem]
      exact fun type htype => hnone ⟨v, hv, Value.noKey_of_unhashable? htype⟩
    rw [hhashable] at hkeyed
    refine ⟨_, hkeyed, keyed_ofList hlength, fun hdiffer => ?_⟩
    have hzip : Entries.keys (values.zip found) = values :=
      List.map_fst_zip (Nat.le_of_eq hlength.symm)
    have hdistinct : Entries.Distinct (values.zip found) := by rwa [Entries.Distinct, hzip]
    rw [Entries.ofList_of_distinct hdistinct]
    exact ⟨hzip, List.map_snd_zip (Nat.le_of_eq hlength)⟩

end

/-- Three rows: the second has nothing in the column of copies. -/
def copiesRows (copies : Value) : List Fields :=
  [[("copies", .int 1)], [("title", .text "Emma")], [("copies", copies)]]

/-- A shelf with these rows. -/
def copiesShelf (copies : Value) : Shelf where
  documents := .list ((copiesRows copies).map .ofFields)

/-- A search for everything on that shelf, by the copies. -/
def copiesSearched (copies : Value) :
    Searched { indexBy := some "copies" }
      { connection := { engine := some (.shelf (copiesShelf copies)) } } {} where
  connection := { engine := some (.shelf (copiesShelf copies)) }
  engine := .shelf (copiesShelf copies)
  prepared := { query := "", sort := [], window := none, fuzzy := false }
  request := {}
  hits := (copiesRows copies).map fun fields => .document { id := "", fields }
  opened := {}
  answered := {
    received := [.search {}]
    calls := [.shelfSearched {}]
    events := [⟨.debug, Engine.searchSource, "Searching stub: ''"⟩] }
  opens := rfl
  prepares := rfl
  finds := rfl

/-- Where the copies in the third row count as one, it takes the place of the first. -/
theorem Keyed.copies_eq {copies : Value} (hcopies : copies.leaf? = some (.whole 1))
    {entries : List (Value × Found)}
    (h : Keyed [.int 1, .null, copies] ((copiesRows copies).map .row) entries) :
    entries = [(.int 1, .row [("copies", copies)]), (.null, .row [("title", .text "Emma")])] := by
  have hsame : (copies == .int 1) = true := (Value.same_leaf_iff hcopies _).mpr rfl
  have hback : (.int 1 == copies) = true := (Value.IsKey.leaf hcopies).symm hsame
  have hnull : (Value.null == .null) = true := (Value.IsKey.leaf rfl).refl
  have hone : (Value.null == .int 1) = false := by
    simp [BEq.beq, Value.same, Value.sameLeaf, Value.wholeNumber?]
  have hother : (.null == copies) = false := by
    rw [Bool.eq_false_iff]
    intro hmatch
    have hleaf := (Value.same_leaf_iff rfl copies).mp hmatch
    rw [hcopies] at hleaf
    cases hleaf
  obtain ⟨hkeys, hlast⟩ := h
  have htwo : [.int 1, .null, copies].eraseDups = [Value.int 1, .null] := by
    simp [List.eraseDups_cons, hsame, hone]
  rw [htwo] at hkeys
  obtain _ | ⟨⟨k, f⟩, _ | ⟨⟨l, g⟩, _ | ⟨_, _⟩⟩⟩ := entries <;> cases hkeys
  have hf : f = .row [("copies", copies)] := by
    simpa [Entries.last?, copiesRows, List.lookup_cons, hback, eq_comm] using
      hlast List.mem_cons_self
  have hg : g = .row [("title", .text "Emma")] := by
    simpa [Entries.last?, copiesRows, List.lookup_cons, hother, hnull, eq_comm] using
      hlast (List.mem_cons_of_mem _ List.mem_cons_self)
  rw [hf, hg]

/-- A row with yes, or with a decimal one, takes the place of the one with one; a list in a tuple
ends the matter; with two copies everything stays. -/
theorem one_and_yes_are_one_key :
    let find (copies : Value) := perform (fetchAll { indexBy := some "copies" })
      { connection := { engine := some (.shelf (copiesShelf copies)) } } {}
    let after (copies : Value) (outcome : Except Fault Findings) :=
      ((outcome, (copiesSearched copies).session), (copiesSearched copies).world)
    find (.bool true) = after (.bool true) (.ok (.keyed [(.int 1, .row [("copies", .bool true)]),
        (.null, .row [("title", .text "Emma")])])) ∧
      find (.float 1.0) = after (.float 1.0) (.ok (.keyed [(.int 1, .row [("copies", .float 1.0)]),
        (.null, .row [("title", .text "Emma")])])) ∧
      (∃ type, find (.tuple [.list []]) =
        after (.tuple [.list []]) (.error (.unhashable type))) ∧
      ∃ entries, find (.int 2) = after (.int 2) (.ok (.keyed entries)) ∧
        entries.map Prod.snd = (copiesRows (.int 2)).map .row := by
  intro find after
  have hlist (copies : Value) : perform (fetchAll {})
      { connection := { engine := some (.shelf (copiesShelf copies)) } } {} =
      after copies (.ok (.list ((copiesRows copies).map .row))) := rfl
  have happly (copies : Value) := the_last_row_of_a_value_stays (copiesSearched copies)
    rfl (by decide) (hlist copies)
  have hvalues (copies : Value) : (copiesSearched copies).rows.map (columnValue "copies") =
      [.int 1, .null, copies] := rfl
  simp only [hvalues] at happly
  have hone (copies : Value) (hcopies : copies.leaf? = some (.whole 1)) :
      find copies = after copies (.ok (.keyed [(.int 1, .row [("copies", copies)]),
        (.null, .row [("title", .text "Emma")])])) := by
    have hkeys : ∀ v ∈ [.int 1, .null, copies], v.IsKey := by
      simpa using ⟨.leaf rfl, .leaf rfl, .leaf hcopies⟩
    have hfree : ¬ ∃ v ∈ [.int 1, .null, copies], v.NoKey :=
      fun ⟨v, hv, hnoKey⟩ => (hkeys v hv).not_noKey hnoKey
    obtain ⟨entries, hfind, hkeyed, -⟩ := (happly copies).2 hfree
    rw [(hkeyed hkeys).copies_eq hcopies] at hfind
    exact hfind
  refine ⟨hone _ rfl, hone _ rfl, (happly _).1 ?_, ?_⟩
  · exact ⟨.tuple [.list []], by simp, .tuple List.mem_cons_self (.list [])⟩
  · have hfree : ¬ ∃ v ∈ [Value.int 1, .null, .int 2], v.NoKey := by
      rintro ⟨v, hv, hnoKey⟩
      have hkey : v.IsKey := by
        obtain rfl | rfl | rfl : v = .int 1 ∨ v = .null ∨ v = .int 2 := by simpa using hv
        all_goals exact .leaf rfl
      exact hkey.not_noKey hnoKey
    obtain ⟨entries, hfind, -, hall⟩ := (happly (.int 2)).2 hfree
    have hdiffer : [Value.int 1, .null, .int 2].Pairwise fun a b => (a == b) = false := by
      simp [BEq.beq, Value.same, Value.sameLeaf, Value.wholeNumber?]
    exact ⟨entries, hfind, (hall hdiffer).2⟩

end Session

end SearchQuery
