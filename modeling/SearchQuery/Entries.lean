-- Maps as lists of entries in the order in which their keys first came. Putting a key that
-- is there already keeps its place and the first spelling of the key.

namespace SearchQuery.Entries

variable {κ α : Type} [BEq κ]

/-- Gives a key a value: in its place if it is there, else at the end. -/
def put (key : κ) (value : α) : List (κ × α) → List (κ × α)
  | [] => [(key, value)]
  | (k, v) :: rest => if k == key then (k, value) :: rest else (k, v) :: put key value rest

/-- Puts more entries into a map, one after the other. -/
def update (entries more : List (κ × α)) : List (κ × α) :=
  more.foldl (fun all (k, v) => put k v all) entries

/-- The map of a list of entries that may name a key twice. -/
def ofList (entries : List (κ × α)) : List (κ × α) := update [] entries

/-- The keys in order. -/
def keys (entries : List (κ × α)) : List κ := entries.map (·.1)

/-- The map without a key. -/
def erase (key : κ) (entries : List (κ × α)) : List (κ × α) :=
  entries.filter fun (k, _) => !(k == key)

/-- Whether a key is there. -/
def has (key : κ) (entries : List (κ × α)) : Bool := entries.any fun (k, _) => k == key

/-! ## What putting does -/

omit [BEq κ] in
theorem keys_cons (key : κ) (value : α) (rest : List (κ × α)) :
    keys ((key, value) :: rest) = key :: keys rest := rfl

section

variable {key k : κ} {v : α} {entries : List (κ × α)}

/-- A key that is put is there already, or comes last. -/
theorem keys_put_cases (k : κ) (v : α) (entries : List (κ × α)) :
    keys (put k v entries) = keys entries ∨
      keys (put k v entries) = keys entries ++ [k] ∧ ∀ l ∈ keys entries, (l == k) = false := by
  induction entries with
  | nil => exact Or.inr ⟨rfl, by simp [keys]⟩
  | cons entry rest ih =>
    obtain ⟨l, w⟩ := entry
    cases h : l == k with
    | true => simp [put, h, keys]
    | false =>
      have hput : put k v ((l, w) :: rest) = (l, w) :: put k v rest := by simp [put, h]
      rw [hput, keys_cons, keys_cons]
      obtain hsame | ⟨hlast, hnew⟩ := ih
      · exact Or.inl (by rw [hsame])
      · refine Or.inr ⟨by rw [hlast, List.cons_append], ?_⟩
        simpa [h] using hnew

theorem mem_keys_put {l : κ} (h : l ∈ keys (put k v entries)) : l ∈ keys entries ∨ l = k := by
  obtain hsame | ⟨hlast, -⟩ := keys_put_cases k v entries
  · exact Or.inl (hsame ▸ h)
  · simpa [hlast] using h

theorem mem_keys_update {more : List (κ × α)} {l : κ} (h : l ∈ keys (update entries more)) :
    l ∈ keys entries ∨ l ∈ keys more := by
  induction more generalizing entries with
  | nil => exact Or.inl h
  | cons e more ih =>
    obtain hput | hmore := ih h
    · obtain hmem | rfl := mem_keys_put hput
      · exact Or.inl hmem
      · exact Or.inr List.mem_cons_self
    · exact Or.inr (List.mem_cons_of_mem _ hmore)

/-- Every key of a map is one of the list that it is made of. -/
theorem mem_keys_ofList {l : κ} (h : l ∈ keys (ofList entries)) : l ∈ keys entries :=
  (mem_keys_update h).resolve_left (by simp [keys])

theorem exists_mem_of_lookup (h : entries.lookup key = some v) :
    ∃ k, key == k ∧ (k, v) ∈ entries := by
  induction entries with
  | nil => cases h
  | cons entry rest ih =>
    rw [List.lookup_cons] at h
    split at h
    · next hkey =>
      cases h
      exact ⟨entry.1, hkey, List.mem_cons_self⟩
    · obtain ⟨k, hkey, hk⟩ := ih h
      exact ⟨k, hkey, List.mem_cons_of_mem _ hk⟩

/-- What holds of all values still does when one more that has it is put. -/
theorem forall_put {p : α → Prop} (hv : p v) (h : ∀ e ∈ entries, p e.2) :
    ∀ e ∈ put k v entries, p e.2 := by
  induction entries with
  | nil => simpa [put] using hv
  | cons entry rest ih =>
    rw [List.forall_mem_cons] at h
    rw [put]
    split
    · exact List.forall_mem_cons.mpr ⟨hv, h.2⟩
    · exact List.forall_mem_cons.mpr ⟨h.1, ih h.2⟩

theorem forall_update {p : α → Prop} {more : List (κ × α)} (h : ∀ e ∈ entries, p e.2)
    (hmore : ∀ e ∈ more, p e.2) : ∀ e ∈ update entries more, p e.2 := by
  induction more generalizing entries with
  | nil => exact h
  | cons e more ih =>
    rw [List.forall_mem_cons] at hmore
    exact ih (forall_put hmore.1 h) hmore.2

theorem forall_ofList {p : α → Prop} (h : ∀ e ∈ entries, p e.2) : ∀ e ∈ ofList entries, p e.2 :=
  forall_update (by simp) h

end

/-! ## Keys that differ -/

/-- No key comes twice. -/
def Distinct (entries : List (κ × α)) : Prop :=
  (keys entries).Pairwise fun a b => (a == b) = false

theorem put_of_new {key : κ} {value : α} {entries : List (κ × α)}
    (h : ∀ k ∈ keys entries, (k == key) = false) :
    put key value entries = entries ++ [(key, value)] := by
  induction entries with
  | nil => rfl
  | cons entry rest ih =>
    have hrest : ∀ k ∈ keys rest, (k == key) = false := fun k hk => h k (List.mem_cons_of_mem _ hk)
    have hentry : (entry.1 == key) = false := h entry.1 List.mem_cons_self
    simp [put, hentry, ih hrest]

theorem update_of_distinct {entries more : List (κ × α)}
    (h : Distinct (entries ++ more)) : update entries more = entries ++ more := by
  induction more generalizing entries with
  | nil => simp [update]
  | cons entry more ih =>
    have hnew : ∀ k ∈ keys entries, (k == entry.1) = false := by
      rw [Distinct, keys, List.map_append, List.pairwise_append] at h
      exact fun k hk => h.2.2 k hk entry.1 List.mem_cons_self
    have hput : put entry.1 entry.2 entries = entries ++ [entry] := put_of_new hnew
    have hmore : entries ++ entry :: more = entries ++ [entry] ++ more := by simp
    rw [hmore] at h ⊢
    rw [← ih h, ← hput]
    rfl

/-- Entries with distinct keys are a map as they stand. -/
theorem ofList_of_distinct {entries : List (κ × α)} (h : Distinct entries) :
    ofList entries = entries :=
  update_of_distinct h

section

variable {entries : List (κ × α)}

theorem Distinct.put (h : Distinct entries) (k : κ) (v : α) :
    Distinct (Entries.put k v entries) := by
  rw [Distinct]
  obtain hsame | ⟨hlast, hnew⟩ := keys_put_cases k v entries
  · rw [hsame]
    exact h
  · rw [hlast, List.pairwise_append]
    exact ⟨h, List.pairwise_singleton .., by simpa using hnew⟩

theorem Distinct.update {more : List (κ × α)} (h : Distinct entries) :
    Distinct (Entries.update entries more) := by
  induction more generalizing entries with
  | nil => exact h
  | cons e more ih => exact ih (h.put e.1 e.2)

theorem distinct_ofList (entries : List (κ × α)) : Distinct (ofList entries) :=
  Distinct.update List.Pairwise.nil

end

/-! ## Keys that are told apart -/

section

variable {key k : κ} {v : α} {entries : List (κ × α)}

/-- A key that is the same as other keys only where these are the same as each other. -/
structure Certain (key : κ) : Prop where
  refl : key == key
  /-- Of two keys that are the same it is the same as both or none. -/
  passes {a b : κ} : a == b → (key == a) = (key == b)
  /-- Two keys that it is the same as are the same. -/
  joins {a b : κ} : key == a → key == b → a == b

namespace Certain

/-- A key that is the same as one of two keys that are apart is not the same as the other. -/
theorem apart {a b : κ} (h : Certain key) (ha : key == a) (hab : (a == b) = false) :
    (key == b) = false := by
  cases hb : key == b with
  | true => simp [h.joins ha hb] at hab
  | false => rfl

theorem lookup_put (h : Certain key) (k : κ) (v : α) (entries : List (κ × α)) :
    (put k v entries).lookup key = if key == k then some v else entries.lookup key := by
  induction entries with
  | nil => cases hk : key == k <;> simp [put, List.lookup_cons, hk]
  | cons entry rest ih =>
    obtain ⟨l, w⟩ := entry
    rw [put]
    cases hl : l == k with
    | true =>
      simp only [if_true, List.lookup_cons, h.passes hl]
      cases key == k <;> rfl
    | false =>
      simp only [Bool.false_eq_true, if_false, List.lookup_cons, ih]
      cases hkl : key == l with
      | false => rfl
      | true => simp [h.apart hkl hl]

/-- A key that is the same finds the same. -/
theorem lookup_congr (h : Certain key) (hk : key == k) (entries : List (κ × α)) :
    entries.lookup k = entries.lookup key := by
  induction entries with
  | nil => rfl
  | cons entry rest ih =>
    have hl : (k == entry.1) = (key == entry.1) := by
      apply Bool.eq_iff_iff.mpr
      exact ⟨fun hl => h.passes hl ▸ hk, fun hl => h.joins hk hl⟩
    rw [List.lookup_cons, List.lookup_cons, hl, ih]

/-- Behind its entry a key is not found again. -/
theorem lookup_rest (h : Certain key) (hk : key == k) (hd : Distinct ((k, v) :: entries)) :
    entries.lookup key = none := by
  rw [List.lookup_eq_none_iff]
  intro e he
  have hapart : (k == e.1) = false :=
    (List.pairwise_cons.mp hd).1 e.1 (List.mem_map_of_mem he)
  simp [bne, h.apart hk hapart]

/-- Where no key comes twice, every entry is found under its key. -/
theorem lookup_of_mem (h : Certain key) (hd : Distinct entries) (hmem : (key, v) ∈ entries) :
    entries.lookup key = some v := by
  induction entries with
  | nil => cases hmem
  | cons entry rest ih =>
    rw [Distinct, keys_cons, List.pairwise_cons] at hd
    rw [List.lookup_cons]
    obtain rfl | hrest := List.mem_cons.mp hmem
    · simp [h.refl]
    · have hkey : (key == entry.1) = false := by
        cases hsame : key == entry.1 with
        | true => simpa [h.joins hsame h.refl] using hd.1 key (List.mem_map_of_mem hrest)
        | false => rfl
      simp [hkey, ih hd.2 hrest]

/-- Of several entries that are put under a key the last one counts. -/
theorem lookup_update (h : Certain key) (entries more : List (κ × α)) :
    (update entries more).lookup key = (more.reverse.lookup key).or (entries.lookup key) := by
  induction more generalizing entries with
  | nil => rfl
  | cons e more ih =>
    have hlast : (put e.1 e.2 entries).lookup key = ([e].lookup key).or (entries.lookup key) := by
      rw [h.lookup_put, List.lookup_cons, List.lookup_nil]
      cases key == e.1 <;> rfl
    show (update (put e.1 e.2 entries) more).lookup key = _
    rw [ih, hlast, List.reverse_cons, List.lookup_append, Option.or_assoc]

theorem lookup_ofList (h : Certain key) (entries : List (κ × α)) :
    (ofList entries).lookup key = entries.reverse.lookup key := by
  rw [ofList, h.lookup_update, List.lookup_nil, Option.or_none]

end Certain

theorem certain_of_lawful [LawfulBEq κ] (key : κ) : Certain key where
  refl := beq_self_eq_true key
  passes h := by rw [eq_of_beq h]
  joins ha hb := by rw [← eq_of_beq ha, hb]

end

/-! ## Keys that are the same only as themselves -/

section

variable [LawfulBEq κ] {key : κ} {v : α} {entries : List (κ × α)}

/-- A key that is there already keeps its place; a new one comes last. -/
theorem keys_put (key : κ) (value : α) (entries : List (κ × α)) :
    keys (put key value entries) =
      if key ∈ keys entries then keys entries else keys entries ++ [key] := by
  induction entries with
  | nil => rfl
  | cons entry rest ih =>
    obtain ⟨k, v⟩ := entry
    rw [put]
    by_cases h : k = key
    · simp [keys_cons, h]
    · have hother : key ≠ k := fun heq => h heq.symm
      rw [if_neg (by simpa using h), keys_cons, keys_cons, ih]
      by_cases hmem : key ∈ keys rest
      · rw [if_pos hmem, if_pos (List.mem_cons_of_mem _ hmem)]
      · rw [if_neg hmem, if_neg (by simp [hother, hmem]), List.cons_append]

theorem lookup_isSome {key : κ} {entries : List (κ × α)} :
    (entries.lookup key).isSome = true ↔ key ∈ keys entries := by
  induction entries with
  | nil => simp [keys]
  | cons entry rest ih =>
    rw [List.lookup_cons, keys_cons, List.mem_cons]
    cases h : key == entry.1 with
    | true => simp [eq_of_beq h]
    | false => simp [ih, ne_of_beq_false h]

/-- Under its key a value is found, under every other key what was there before. -/
theorem lookup_put (key other : κ) (value : α) (entries : List (κ × α)) :
    (put key value entries).lookup other =
      if other == key then some value else entries.lookup other :=
  (certain_of_lawful other).lookup_put key value entries

/-- Every entry of a map is one of the list that it is made of. -/
theorem mem_of_mem_ofList (h : (key, v) ∈ ofList entries) : (key, v) ∈ entries := by
  have hlookup := (certain_of_lawful key).lookup_of_mem (distinct_ofList entries) h
  rw [(certain_of_lawful key).lookup_ofList, List.lookup_eq_some_iff] at hlookup
  obtain ⟨before, after, hentries, -⟩ := hlookup
  rw [← List.mem_reverse, hentries]
  simp

theorem mem_keys_ofList_iff : key ∈ keys (ofList entries) ↔ key ∈ keys entries := by
  rw [← lookup_isSome, (certain_of_lawful key).lookup_ofList, lookup_isSome, keys, List.map_reverse,
    List.mem_reverse]
  rfl

/-! ## Maps put together -/

/-- Of two values that are put under one key the later counts. -/
theorem put_put (key : κ) (first second : α) (entries : List (κ × α)) :
    put key second (put key first entries) = put key second entries := by
  induction entries with
  | nil => simp [put]
  | cons entry rest ih =>
    cases h : entry.1 == key with
    | true => simp [put, h]
    | false => simp [put, h, ih]

/-- A value for a key that is there can be put before or behind that for another key. -/
theorem put_comm {other : κ} (hother : key ≠ other) (hkey : key ∈ keys entries) (v w : α) :
    put key v (put other w entries) = put other w (put key v entries) := by
  induction entries with
  | nil => cases hkey
  | cons entry rest ih =>
    obtain ⟨k, old⟩ := entry
    by_cases hk : k = key
    · subst hk
      simp [put, hother]
    · have hrest : key ∈ keys rest := by
        rw [keys_cons, List.mem_cons] at hkey
        exact hkey.resolve_left (Ne.symm hk)
      by_cases hk' : k = other
      · subst hk'
        simp [put, hk]
      · simp [put, hk, hk', ih hrest]

theorem mem_keys_put_of_mem {k : κ} (h : key ∈ keys entries) (v : α) :
    key ∈ keys (put k v entries) := by
  rw [keys_put]
  split
  · exact h
  · exact List.mem_append_left _ h

/-- A value for a key that is there can be put before or behind entries of other keys. -/
theorem put_update {more : List (κ × α)} (hkey : key ∈ keys entries) (hmore : key ∉ keys more) :
    put key v (update entries more) = update (put key v entries) more := by
  induction more generalizing entries with
  | nil => rfl
  | cons entry more ih =>
    rw [keys_cons, List.mem_cons, not_or] at hmore
    show put key v (update (put entry.1 entry.2 entries) more) =
      update (put entry.1 entry.2 (put key v entries)) more
    rw [ih (mem_keys_put_of_mem hkey _) hmore.2, put_comm hmore.1 hkey]

/-- What is put into a map of entries is put last. -/
theorem update_put {more : List (κ × α)} (hd : Distinct more) (key : κ) (v : α)
    (entries : List (κ × α)) :
    update entries (put key v more) = put key v (update entries more) := by
  induction more generalizing entries with
  | nil => rfl
  | cons entry more ih =>
    obtain ⟨k, w⟩ := entry
    rw [Distinct, keys_cons, List.pairwise_cons] at hd
    by_cases hk : k = key
    · subst hk
      have hmore : k ∉ keys more := fun hmem => by simpa using hd.1 k hmem
      have hmem : k ∈ keys (put k w entries) := by
        rw [keys_put]
        split <;> simp_all
      have hput : put k v ((k, w) :: more) = (k, v) :: more := by simp [put]
      rw [hput]
      show update (put k v entries) more = put k v (update (put k w entries) more)
      rw [put_update hmem hmore, put_put]
    · have hput : put key v ((k, w) :: more) = (k, w) :: put key v more := by simp [put, hk]
      rw [hput]
      exact ih hd.2 (put k w entries)

/-- Entries that are put into a map in two steps are put the same at once. -/
theorem update_update {more : List (κ × α)} (hd : Distinct more) (entries last : List (κ × α)) :
    update entries (update more last) = update (update entries more) last := by
  induction last generalizing more with
  | nil => rfl
  | cons entry last ih =>
    show update entries (update (put entry.1 entry.2 more) last) =
      update (put entry.1 entry.2 (update entries more)) last
    rw [ih (hd.put _ _), update_put hd]

/-- Two maps put together are the map of all entries that they were made of. -/
theorem update_ofList (entries more : List (κ × α)) :
    update (ofList entries) (ofList more) = ofList (entries ++ more) := by
  have hnone : Distinct ([] : List (κ × α)) := List.Pairwise.nil
  have hall : update (ofList entries) (ofList more) = update (ofList entries) more :=
    update_update hnone _ _
  rw [hall, ofList, ofList, update, update, update, List.foldl_append]

end

end SearchQuery.Entries
