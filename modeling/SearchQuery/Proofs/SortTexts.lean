-- Sort columns as the text that Solr gets for them: the columns with commas in between, each
-- with its direction behind it. Reading that text as sort columns gives back the columns that
-- it was written from, with their directions and in their order.
import SearchQuery.Ordering
import SearchQuery.Proofs.Exchanges
import SearchQuery.Proofs.Preparations

namespace SearchQuery

namespace Text

/-! ## Texts cut at commas -/

/-- Items between commas and blanks are cut at the commas; every blank stays with the item
behind it. -/
theorem splitAll_listed {item : List Char} {items : List (List Char)}
    (h : ∀ i ∈ item :: items, ',' ∉ i) :
    splitAll ',' ([',', ' '].intercalate (item :: items)) = item :: items.map (' ' :: ·) := by
  have hblank : [',', ' '].intercalate (item :: items) =
      [','].intercalate (item :: items.map (' ' :: ·)) := by
    clear h
    induction items generalizing item with
    | nil => rfl
    | cons next items ih =>
      rw [List.intercalate_cons_cons, ih, List.map_cons, List.intercalate_cons_cons]
      cases items <;> simp
  rw [hblank, splitAll_eq_splitOn]
  refine List.splitOn_intercalate ',' (fun i hi => ?_) (List.cons_ne_nil _ _)
  rcases List.mem_cons.mp hi with rfl | hi
  · exact h _ List.mem_cons_self
  · obtain ⟨next, hnext, rfl⟩ := List.mem_map.mp hi
    have := h next (List.mem_cons_of_mem _ hnext)
    simpa using this

/-! ## Blanks at the ends -/

theorem dropWhile_of_head {p : Char → Bool} {cs : List Char} (h : ∀ c ∈ cs.head?, p c = false) :
    cs.dropWhile p = cs := by
  cases cs with
  | nil => rfl
  | cons c cs => simp [h c rfl]

/-- A text without blanks at its ends. -/
structure Trimmed (cs : List Char) : Prop where
  first : ∀ c ∈ cs.head?, isBlank c = false
  last : ∀ c ∈ cs.getLast?, isBlank c = false

instance (cs : List Char) : Decidable (Trimmed cs) :=
  decidable_of_iff (cs.head?.all (!isBlank ·) = true ∧ cs.getLast?.all (!isBlank ·) = true)
    ⟨fun h => ⟨by simpa [Option.all_eq_true] using h.1, by simpa [Option.all_eq_true] using h.2⟩,
      fun h => by simpa [Option.all_eq_true] using And.intro h.first h.last⟩

theorem trimBy_trimmed {cs : List Char} (h : Trimmed cs) : trimBy isBlank cs = cs := by
  have hback : ∀ c ∈ cs.reverse.head?, isBlank c = false := by
    rw [List.head?_reverse]
    exact h.last
  rw [trimBy, dropWhile_of_head h.first, dropWhile_of_head hback, List.reverse_reverse]

theorem trimBy_blank (cs : List Char) : trimBy isBlank (' ' :: cs) = trimBy isBlank cs := by
  have hblank : isBlank ' ' = true := rfl
  rw [trimBy, List.dropWhile_cons_of_pos hblank, trimBy]

/-- The last word behind a text without blanks at its ends and some blanks. -/
theorem lastWord_append {front gap word : List Char} (hfront : Trimmed front) (hsome : gap ≠ [])
    (hgap : ∀ c ∈ gap, isBlank c = true) (hword : ∀ c ∈ word, isBlank c = false) :
    lastWord (front ++ gap ++ word) = (front, word) := by
  have hback : (front ++ gap ++ word).reverse = word.reverse ++ (gap.reverse ++ front.reverse) := by
    simp
  have hletters : ∀ c ∈ word.reverse, (!isBlank c) = true := fun c hc => by
    simp [hword c (List.mem_reverse.mp hc)]
  have hblanks : ∀ c ∈ gap.reverse, isBlank c = true := fun c hc => hgap c (List.mem_reverse.mp hc)
  have hlast : ∀ c ∈ front.reverse.head?, isBlank c = false := by
    rw [List.head?_reverse]
    exact hfront.last
  unfold lastWord
  simp only [hback, List.takeWhile_append_of_pos hletters, List.dropWhile_append_of_pos hletters]
  obtain ⟨c, more, hcons⟩ := List.exists_cons_of_ne_nil (List.reverse_ne_nil_iff.mpr hsome)
  have hc : isBlank c = true := hblanks c (hcons ▸ List.mem_cons_self)
  have hstop : (gap.reverse ++ front.reverse).takeWhile (!isBlank ·) = [] ∧
      (gap.reverse ++ front.reverse).dropWhile (!isBlank ·) = gap.reverse ++ front.reverse := by
    simp [hcons, hc]
  rw [hstop.1, hstop.2, List.dropWhile_append_of_pos hblanks, dropWhile_of_head hlast]
  simp

end Text

/-! ## Sort texts -/

/-- A column as it stands in a sort text. -/
def writtenColumn (column : String × Bool) : String :=
  column.1 ++ " " ++ if column.2 then "asc" else "desc"

theorem Solr.sortText_parts (sort : List (String × Bool)) :
    sortText (Columns.parts sort) = ", ".intercalate (sort.map writtenColumn) := by
  simp only [sortText, Columns.parts, List.map_map, Function.comp_def, Value.display_text,
    Value.isTruthy]
  rfl

/-- A sort text is cut at its commas into the columns that it was written from, if none of
their names holds a comma. -/
theorem Solr.splitAll_sortText {column : String × Bool} {sort : List (String × Bool)}
    (h : ∀ c ∈ column :: sort, ',' ∉ c.1.toList) :
    Text.splitAll ',' (sortText (Columns.parts (column :: sort))).toList =
      (writtenColumn column).toList :: sort.map fun c => ' ' :: (writtenColumn c).toList := by
  have hitems : ∀ i ∈ (writtenColumn column).toList ::
      sort.map (fun c => (writtenColumn c).toList), ',' ∉ i := by
    intro i hi
    obtain ⟨c, hc, rfl⟩ := List.mem_map.mp
      (show i ∈ (column :: sort).map fun c => (writtenColumn c).toList from hi)
    have hword : ',' ∉ (if c.2 then "asc" else "desc").toList := by cases c.2 <;> decide
    simp [writtenColumn, h c hc, hword]
  have hcut := Text.splitAll_listed hitems
  rw [sortText_parts, String.toList_intercalate, List.map_map]
  rw [List.map_map] at hcut
  exact hcut

/-! ## Reading a sort text -/

/-- A column name that a sort text can hold: something, without commas and line ends in it
and without blanks at its ends. -/
structure IsColumnName (name : String) : Prop where
  nonempty : name ≠ ""
  oneItem : ',' ∉ name.toList
  oneLine : '\n' ∉ name.toList
  trimmed : Text.Trimmed name.toList

instance (name : String) : Decidable (IsColumnName name) :=
  decidable_of_iff
    (name ≠ "" ∧ ',' ∉ name.toList ∧ '\n' ∉ name.toList ∧ Text.Trimmed name.toList)
    ⟨fun h => ⟨h.1, h.2.1, h.2.2.1, h.2.2.2⟩,
      fun h => ⟨h.nonempty, h.oneItem, h.oneLine, h.trimmed⟩⟩

theorem Direction.isDirectionWord_name (d : Direction) : isDirectionWord d.name.toList = true := by
  cases d <;> decide

theorem Direction.directionOfWord_name (d : Direction) : directionOfWord d.name.toList = .ok d := by
  cases d <;> rfl

theorem Direction.letters_name (d : Direction) : ∀ c ∈ d.name.toList, Text.isBlank c = false := by
  cases d <;> simp [Direction.name, Text.isBlank]

namespace Columns

/-- A column with its direction in words. -/
def written (column : String × Direction) : List Char :=
  column.1.toList ++ ' ' :: column.2.name.toList

theorem written_eq (column : String × Direction) :
    (writtenColumn (column.1, column.2 != .descending)).toList = written column := by
  obtain ⟨name, d⟩ := column
  cases d <;> simp [writtenColumn, written, Direction.name]

section

variable {column : String × Direction} (hname : IsColumnName column.1)
include hname

/-- A column that was written is read as that column, whatever words its name ends with: the
last word is always the direction. -/
theorem readColumn_written : readColumn (written column) = .ok column := by
  have hparted : written column = column.1.toList ++ [' '] ++ column.2.name.toList := by
    simp [written]
  have hword := Text.lastWord_append hname.trimmed (List.cons_ne_nil ' ' [])
    (by simp [Text.isBlank]) column.2.letters_name
  have hempty : column.1.toList.isEmpty = false := by simpa using hname.nonempty
  have hline : column.1.toList.contains '\n' = false := by simpa using hname.oneLine
  rw [hparted, readColumn, hword]
  dsimp only
  rw [column.2.isDirectionWord_name, hempty, hline, column.2.directionOfWord_name]
  simp [Except.map]

theorem trimmed_written : Text.Trimmed (written column) := by
  have hsome : column.1.toList ≠ [] := by simpa using hname.nonempty
  have hlast : column.2.name.toList.getLast? = (' ' :: column.2.name.toList).getLast? := by
    cases column.2 <;> rfl
  constructor
  · rw [written, List.head?_append_of_ne_nil _ hsome]
    exact hname.trimmed.first
  · rw [written, List.getLast?_append_of_ne_nil _ (List.cons_ne_nil _ _), ← hlast]
    exact fun c hc => column.2.letters_name c (List.mem_of_getLast? hc)

end

variable {columns : Columns}

/-- The parts of a sort text are the columns that it was written from. -/
theorem orderParts_sortText (hsome : columns ≠ [])
    (h : ∀ column ∈ columns, IsColumnName column.1) :
    orderParts (Solr.sortText (parts columns.pushed)) = columns.map written := by
  obtain ⟨column, more, rfl⟩ := List.exists_cons_of_ne_nil hsome
  have htrim : ∀ c ∈ column :: more, Text.trimBy Text.isBlank (written c) = written c :=
    fun c hc => Text.trimBy_trimmed (trimmed_written (h c hc))
  have hcommas : ∀ c ∈ pushed (column :: more), ',' ∉ c.1.toList := by
    intro c hc
    obtain ⟨given, hgiven, rfl⟩ := List.mem_map.mp hc
    exact (h given hgiven).oneItem
  have hcut : Text.splitAll ',' (Solr.sortText (parts (pushed (column :: more)))).toList =
      written column :: more.map fun c => ' ' :: written c := by
    refine (Solr.splitAll_sortText hcommas).trans ?_
    simp [List.map_map, Function.comp_def, written_eq]
  have hpieces : (Text.splitAll ',' (Solr.sortText (parts (pushed (column :: more)))).toList).map
      (Text.trimBy Text.isBlank) = (column :: more).map written := by
    rw [hcut, List.map_cons, List.map_map, List.map_cons, htrim column List.mem_cons_self]
    congr 1
    refine List.map_congr_left fun c hc => ?_
    exact (Text.trimBy_blank _).trans (htrim c (List.mem_cons_of_mem _ hc))
  rw [orderParts, hpieces, List.filter_eq_self]
  intro part hpart
  obtain ⟨c, -, rfl⟩ := List.mem_map.mp hpart
  simp [written]

/-- Columns come back out of the text that Solr is sent to sort by them. -/
theorem ofText_sortText (hsome : columns ≠ []) (h : ∀ column ∈ columns, IsColumnName column.1)
    (hdistinct : (Entries.keys columns).Nodup) :
    ofText (Solr.sortText (parts columns.pushed)) = .ok columns := by
  have hread : (columns.map written).mapM readColumn = .ok columns := by
    clear hsome hdistinct
    induction columns with
    | nil => rfl
    | cons column more ih =>
      have hcolumn := readColumn_written (h column List.mem_cons_self)
      have hmore := ih fun c hc => h c (List.mem_cons_of_mem _ hc)
      rw [List.map_cons, List.mapM_cons, hcolumn, hmore]
      rfl
  have hkeys : (Entries.keys columns).Pairwise fun a b => (a == b) = false :=
    hdistinct.imp fun hne => beq_false_of_ne hne
  rw [ofText, orderParts_sortText hsome h, hread]
  exact congrArg Except.ok (Entries.ofList_of_distinct hkeys)

end Columns

/-! ## What Solr is sent -/

/-- An empty text names no columns, as one with commas only. -/
theorem Columns.ofValue_text (s : String) : ofValue (.text s) = ofText s := by
  by_cases hempty : s = ""
  · subst hempty
    rfl
  · have htruthy : (Value.text s).isTruthy = true := by simpa [Value.isTruthy] using hempty
    simp [ofValue, htruthy, Value.text?]

theorem Solr.searchBody_sort (s : Solr) {r : Request} (h : r.sort ≠ []) :
    (s.searchBody r).get? "sort" = .ok (some (.text (sortText r.sort))) := by
  simp [searchBody, Value.get?_ofFields, List.lookup_append, List.lookup_cons, h]

/-- Whatever request columns are pushed onto, the search that Solr is sent for it holds a sort
text, and reading that as sort columns gives exactly the columns, in their order and with
their directions. -/
theorem Columns.the_sort_text_reads_back_as_its_columns {columns : Columns} (hsome : columns ≠ [])
    (hdistinct : (Entries.keys columns).Nodup)
    (hnames : ∀ name ∈ Entries.keys columns, IsColumnName name) {s : Solr} (hlive : s.live = true)
    (r : Request) (w : World) :
    ∃ path body text,
      (((Engine.solr s).execute (r.applySort columns.pushed)).run.run w).2.calls =
        w.calls ++ [.post path body] ∧
      body.get? "sort" = .ok (some (.text text)) ∧
      ofValue (.text text) = .ok columns := by
  have hpushed : columns.pushed ≠ [] := by simpa [pushed] using hsome
  have hsort : (r.applySort columns.pushed).sort = parts columns.pushed := by
    rw [Request.applySort_sort, if_neg hpushed]
  let sorted := r.applySort columns.pushed
  refine ⟨"/" ++ (s.collectionOf sorted).display ++ "/select", s.searchBody sorted,
    Solr.sortText (parts columns.pushed), ?_, ?_, ?_⟩
  · rw [Engine.run_execute]
    dsimp only
    rw [Solr.run_execute hlive]
    rfl
  · rw [Solr.searchBody_sort, hsort]
    simpa [sorted, hsort, parts] using hpushed
  · rw [ofValue_text]
    exact ofText_sortText hsome (fun c hc => hnames c.1 (List.mem_map_of_mem hc)) hdistinct

/-- Columns named after directions, and one with blanks and such a word inside. -/
def trickyColumns : Columns :=
  [("asc", .descending), ("x desc", .ascending), ("a  b", .descending)]

/-- Direction words in names are kept apart from the directions. -/
theorem Columns.tricky_columns_read_back :
    ∃ path body text,
      (((Engine.solr { live := true }).execute
        (({} : Request).applySort (Columns.pushed trickyColumns))).run.run {}).2.calls =
          [.post path body] ∧
      body.get? "sort" = .ok (some (.text text)) ∧
      Columns.ofValue (.text text) = .ok trickyColumns := by
  have hnames : ∀ name ∈ Entries.keys trickyColumns, IsColumnName name := by decide
  exact the_sort_text_reads_back_as_its_columns (by decide) (by decide) hnames rfl {} {}

end SearchQuery
