-- Maps laid over each other. At the end of a way of keys the upper map has the first word,
-- and what it leaves open the lower one says. That takes keys that are told apart from all
-- others, and maps that name no key twice.
import SearchQuery.Settings.Variables

namespace SearchQuery

/-! ## Values as keys -/

namespace Value

open Entries (Certain Distinct)

/-- A value that counts as a text is the same as those that count as this text. -/
theorem beq_of_text? {k : Value} {s : String} (h : k.text? = some s) (v : Value) :
    (k == v) = (v.text? == some s) := by
  show same k v = _
  cases k with
  | text t | direction d | operator o =>
    cases h
    cases v with
    | float x =>
      cases hx : Decimal.exactInt? x <;> simp [same, sameLeaf, wholeNumber?, text?, hx]
    | text | direction | operator =>
      rw [Bool.eq_iff_iff]
      simpa [same, sameLeaf, wholeNumber?, text?] using eq_comm
    | _ => simp [same, sameLeaf, wholeNumber?, text?]
  | _ => cases h

/-- A text finds what has its name. -/
theorem lookup_text (name : String) (entries : List (Value × Value)) :
    entries.lookup (.text name) = field? name entries := by
  induction entries with
  | nil => rfl
  | cons e entries ih =>
    obtain ⟨k, v⟩ := e
    rw [List.lookup_cons, beq_of_text? rfl, ih, field?, field?, List.findSome?_cons]
    dsimp only
    cases k.text? == some name <;> rfl

/-- Values that are the same count as the same text. -/
theorem text?_congr {a b : Value} (h : a == b) : a.text? = b.text? := by
  cases ha : a.text? with
  | some s =>
    rw [beq_of_text? ha, beq_iff_eq] at h
    exact h.symm
  | none =>
    cases hb : b.text? with
    | none => rfl
    | some t =>
      have hsame : same a b = true := h
      cases b with
      | text | direction | operator =>
        cases a with
        | float x =>
          cases hx : Decimal.exactInt? x <;>
            simp [same, sameLeaf, wholeNumber?, text?, hx] at hsame
        | text | direction | operator => cases ha
        | _ => simp [same, sameLeaf, wholeNumber?, text?] at hsame
      | _ => cases hb

theorem certain_of_text? {k : Value} {s : String} (h : k.text? = some s) : Certain k where
  refl := by rw [beq_of_text? h, h, beq_self_eq_true]
  passes hab := by rw [beq_of_text? h, beq_of_text? h, text?_congr hab]
  joins ha hb := by
    rw [beq_of_text? h, beq_iff_eq] at ha hb
    rw [beq_of_text? ha, hb, beq_self_eq_true]

theorem certain_text (s : String) : Certain (Value.text s) := certain_of_text? rfl

/-- Bytes are the same as the same bytes only. -/
theorem bytes_beq_iff {b : List UInt8} {v : Value} :
    (Value.bytes b == v) = true ↔ v = .bytes b := by
  show same (.bytes b) v = true ↔ _
  cases v with
  | float x => cases hx : Decimal.exactInt? x <;> simp [same, sameLeaf, wholeNumber?, text?, hx]
  | bytes c => simpa [same, sameLeaf, wholeNumber?] using eq_comm
  | _ => simp [same, sameLeaf, wholeNumber?, text?]

theorem beq_bytes_iff {b : List UInt8} {v : Value} :
    (v == Value.bytes b) = true ↔ v = .bytes b := by
  show same v (.bytes b) = true ↔ _
  cases v with
  | float x => cases hx : Decimal.exactInt? x <;> simp [same, sameLeaf, wholeNumber?, text?, hx]
  | _ => simp [same, sameLeaf, wholeNumber?, text?]

theorem certain_bytes (b : List UInt8) : Certain (Value.bytes b) where
  refl := bytes_beq_iff.mpr rfl
  passes {x y} hxy := by
    rw [Bool.eq_iff_iff, bytes_beq_iff, bytes_beq_iff]
    constructor <;> rintro rfl
    · exact bytes_beq_iff.mp hxy
    · exact beq_bytes_iff.mp hxy
  joins hx hy := by
    rw [bytes_beq_iff] at hx hy
    rw [hx, hy, bytes_beq_iff]

/-! ## Ways into a value -/

/-- What is found in a value at the end of a way of keys. -/
def along? : List Value → Value → Option Value
  | [], v => some v
  | key :: way, .map entries => (entries.lookup key).bind (along? way)
  | _ :: _, _ => none

theorem along?_one (key : Value) (entries : List (Value × Value)) :
    (Value.map entries).along? [key] = entries.lookup key := by
  show (entries.lookup key).bind some = _
  cases entries.lookup key <;> rfl

theorem along?_append (way rest : List Value) (v : Value) :
    v.along? (way ++ rest) = (v.along? way).bind (along? rest) := by
  induction way generalizing v with
  | nil => rfl
  | cons key way ih =>
    cases v with
    | map entries =>
      show (entries.lookup key).bind (along? (way ++ rest)) =
        ((entries.lookup key).bind (along? way)).bind (along? rest)
      rw [funext ih]
      cases entries.lookup key <;> rfl
    | _ => rfl

/-- Along the way there are maps as far as it goes. -/
def Opens : List Value → Value → Prop
  | [], _ => True
  | key :: way, .map entries => ∀ v, entries.lookup key = some v → Opens way v
  | _ :: _, _ => False

theorem Opens.append {way rest : List Value} {v : Value} (h : v.Opens way)
    (hrest : ∀ w, v.along? way = some w → w.Opens rest) : v.Opens (way ++ rest) := by
  induction way generalizing v with
  | nil => exact hrest v rfl
  | cons key way ih =>
    cases v with
    | map entries =>
      exact fun w hw => ih (h w hw) fun x hx => hrest x (by
        show (entries.lookup key).bind (along? way) = _
        rw [hw]
        exact hx)
    | _ => exact h.elim

/-- No map names a key twice, and none of those that it holds does. -/
inductive Sound : Value → Prop
  | map {entries : List (Value × Value)} (distinct : Distinct entries)
      (inner : ∀ e ∈ entries, Sound e.2) : Sound (.map entries)
  | plain {v : Value} (h : ∀ entries, v ≠ .map entries) : Sound v

namespace Sound

variable {entries : List (Value × Value)}

theorem distinct (h : Sound (.map entries)) : Distinct entries := by
  cases h with
  | map hd _ => exact hd
  | plain h => exact absurd rfl (h entries)

theorem inner (h : Sound (.map entries)) : ∀ e ∈ entries, Sound e.2 := by
  cases h with
  | map _ hi => exact hi
  | plain h => exact absurd rfl (h entries)

theorem lookup {key v : Value} (h : Sound (.map entries)) (hv : entries.lookup key = some v) :
    Sound v := by
  obtain ⟨k, -, hmem⟩ := Entries.exists_mem_of_lookup hv
  exact h.inner (k, v) hmem

theorem along? {way : List Value} {v w : Value} (h : Sound v) (hw : v.along? way = some w) :
    Sound w := by
  induction way generalizing v with
  | nil =>
    cases hw
    exact h
  | cons key way ih =>
    cases v with
    | map entries =>
      obtain ⟨next, hnext, hrest⟩ := Option.bind_eq_some_iff.mp hw
      exact ih (h.lookup hnext) hrest
    | _ => cases hw

theorem put {v : Value} (h : Sound (.map entries)) (key : Value) (hv : Sound v) :
    Sound (.map (Entries.put key v entries)) :=
  .map (h.distinct.put key v) (Entries.forall_put hv h.inner)

theorem nil : Sound (.map []) := .map List.Pairwise.nil (by simp)

theorem ofList (h : ∀ e ∈ entries, Sound e.2) : Sound (.map (Entries.ofList entries)) :=
  .map (Entries.distinct_ofList entries) (Entries.forall_ofList h)

end Sound

end Value

/-! ## Overlays -/

namespace Variables

open Entries (Certain Distinct)
open Value (Sound)

theorem laidOver_maps (below above : List (Value × Value)) :
    laidOver (some (.map below)) (.map above) = .map (layEntries below above) := by
  rw [laidOver]

theorem laidOver_map {below : Option Value} (h : ∀ entries, below ≠ some (.map entries))
    (above : List (Value × Value)) : laidOver below (.map above) = .map above := by
  cases below with
  | none => rw [laidOver]; simp
  | some v =>
    cases v with
    | map entries => exact absurd rfl (h entries)
    | _ => rw [laidOver]; simp

theorem laidOver_plain {v : Value} (h : ∀ entries, v ≠ .map entries) (below : Option Value) :
    laidOver below v = v := by
  cases v with
  | map entries => exact absurd rfl (h entries)
  | _ => simp [laidOver]

theorem laidOver_none (v : Value) : laidOver none v = v := by
  cases v with
  | map entries => exact laidOver_map (by simp) entries
  | _ => exact laidOver_plain (by simp) none

/-- A map that is laid over anything is a map. -/
theorem exists_laidOver_map (below : Option Value) (above : List (Value × Value)) :
    ∃ entries, laidOver below (.map above) = .map entries := by
  by_cases h : ∃ entries, below = some (.map entries)
  · obtain ⟨lower, rfl⟩ := h
    exact ⟨_, laidOver_maps lower above⟩
  · exact ⟨above, laidOver_map (by simpa using h) above⟩

mutual
theorem sound_laidOver {below : Option Value} {above : Value}
    (hbelow : ∀ v, below = some v → Sound v) (habove : Sound above) :
    Sound (laidOver below above) := by
  cases above with
  | map above =>
    by_cases h : ∃ entries, below = some (.map entries)
    · obtain ⟨entries, rfl⟩ := h
      rw [laidOver_maps]
      exact sound_layEntries (hbelow _ rfl) habove.inner
    · rw [laidOver_map (by simpa using h)]
      exact habove
  | _ => simpa [laidOver] using habove
theorem sound_layEntries {below above : List (Value × Value)} (hbelow : Sound (.map below))
    (habove : ∀ e ∈ above, Sound e.2) : Sound (.map (layEntries below above)) := by
  cases above with
  | nil => simpa [layEntries] using hbelow
  | cons entry rest =>
    rw [List.forall_mem_cons] at habove
    rw [layEntries]
    refine sound_layEntries (hbelow.put _ (sound_laidOver (fun v hv => hbelow.lookup hv) ?_))
      habove.2
    exact habove.1
end

/-- A key finds the upper value, laid over the lower one, else the lower one. -/
theorem lookup_layEntries {key : Value} {below above : List (Value × Value)} (hkey : Certain key)
    (habove : Distinct above) :
    (layEntries below above).lookup key =
      match above.lookup key with
      | some v => some (laidOver (below.lookup key) v)
      | none => below.lookup key := by
  induction above generalizing below with
  | nil => rw [layEntries, List.lookup_nil]
  | cons entry rest ih =>
    obtain ⟨k, v⟩ := entry
    have hrest : Distinct rest := (List.pairwise_cons.mp habove).2
    rw [layEntries, ih hrest, hkey.lookup_put, List.lookup_cons]
    cases hk : key == k with
    | true => simp [hkey.lookup_rest hk habove, hkey.lookup_congr hk]
    | false => rfl

/-- What is found at the end of a way in a value that is laid over another one: what both hold
there, laid over each other. -/
theorem along?_laidOver {way : List Value} {below : Option Value} {above : Value}
    (hway : ∀ key ∈ way, Certain key) (habove : Sound above)
    (h : (laidOver below above).Opens way) :
    (laidOver below above).along? way =
        (match above.along? way with
        | some v => some (laidOver (below.bind (·.along? way)) v)
        | none => below.bind (·.along? way)) ∧
      above.Opens way := by
  induction way generalizing below above with
  | nil =>
    have hbelow : below.bind (·.along? []) = below := by cases below <;> rfl
    rw [hbelow]
    exact ⟨rfl, trivial⟩
  | cons key way ih =>
    rw [List.forall_mem_cons] at hway
    by_cases hmap : ∃ entries, above = .map entries
    · obtain ⟨entries, rfl⟩ := hmap
      by_cases hbelow : ∃ lower, below = some (.map lower)
      · obtain ⟨lower, rfl⟩ := hbelow
        rw [laidOver_maps] at h ⊢
        simp only [Value.Opens, lookup_layEntries hway.1 habove.distinct] at h
        simp only [Value.along?, Value.Opens, lookup_layEntries hway.1 habove.distinct,
          Option.bind_some]
        cases hv : entries.lookup key with
        | none => simp
        | some v =>
          rw [hv] at h
          obtain ⟨halong, hopens⟩ := ih hway.2 (habove.lookup hv) (h _ rfl)
          simpa [halong] using hopens
      · have hnone : below.bind (·.along? (key :: way)) = none := by
          cases below with
          | none => rfl
          | some v =>
            cases v with
            | map lower => exact absurd ⟨lower, rfl⟩ hbelow
            | _ => rfl
        rw [laidOver_map (by simpa using hbelow)] at h ⊢
        rw [hnone]
        refine ⟨?_, h⟩
        cases (Value.map entries).along? (key :: way) with
        | none => rfl
        | some v => exact congrArg some (laidOver_none v).symm
    · rw [laidOver_plain (by simpa using hmap)] at h
      cases above with
      | map entries => exact absurd ⟨entries, rfl⟩ hmap
      | _ => exact h.elim

section

variable {way : List Value} {below above : List (Value × Value)} (hway : ∀ key ∈ way, Certain key)
  (habove : Sound (.map above)) (h : (Value.map (layEntries below above)).Opens way)
include hway habove h

theorem along?_layEntries :
    (Value.map (layEntries below above)).along? way =
        (match (Value.map above).along? way with
        | some v => some (laidOver ((Value.map below).along? way) v)
        | none => (Value.map below).along? way) ∧
      (Value.map above).Opens way := by
  rw [← laidOver_maps] at h ⊢
  exact along?_laidOver hway habove h

/-- Where no map is found the upper entries have the first word, and what they leave open the
lower ones say. -/
theorem along?_layEntries_plain
    (hplain : ∀ entries, (Value.map (layEntries below above)).along? way ≠ some (.map entries)) :
    (Value.map (layEntries below above)).along? way =
        ((Value.map above).along? way).or ((Value.map below).along? way) ∧
      ∀ entries, (Value.map above).along? way ≠ some (.map entries) := by
  have halong := (along?_layEntries hway habove h).1
  rw [halong] at hplain ⊢
  cases hv : (Value.map above).along? way with
  | none => simp
  | some v =>
    rw [hv] at hplain
    have hvmap : ∀ entries, v ≠ .map entries := by
      rintro entries rfl
      obtain ⟨all, hall⟩ := exists_laidOver_map ((Value.map below).along? way) entries
      exact hplain all (congrArg some hall)
    exact ⟨congrArg some (laidOver_plain hvmap _), fun entries heq =>
      hvmap entries (Option.some.inj heq)⟩

end

end Variables

end SearchQuery
