-- No map that is read from YAML or from JSON names a key twice, nor does any that it holds.
import SearchQuery.Proofs.JsonValues
import SearchQuery.Proofs.Orders
import SearchQuery.Proofs.Overlays

namespace SearchQuery

open CommandLine (both_of_bind holds_after_steps)
open Value (Sound)

/-! ## YAML -/

namespace Yaml

theorem valueOfText_ne_map {tag : Tag} {s : String} {v : Value} (h : valueOfText tag s = .ok v)
    (entries : List (Value × Value)) : v ≠ .map entries := by
  rintro rfl
  unfold valueOfText at h
  split at h
  · cases h
  · dsimp only at h
    split at h <;> cases h
  · cases hn : intOf s <;> simp [hn, Except.map] at h
  · cases hx : floatOf s <;> simp [hx, Except.map] at h
  · cases hm : momentOf s <;> simp [hm, Except.map] at h
  · cases h

theorem scalarValue_ne_map {tag : Tag} {s : String} {start : Mark} {v : Value}
    (h : scalarValue tag s start = .ok v) (entries : List (Value × Value)) : v ≠ .map entries := by
  unfold scalarValue at h
  split at h
  · rintro rfl
    have hbytes := CommandLine.ok_of_mapError h
    cases hb : Text.Base64.decode s <;> simp [hb, Except.map] at hbytes
  · exact valueOfText_ne_map (CommandLine.ok_of_mapError h) entries

theorem sound_plainValue (tag : Tag) (n : Node) : Sound (plainValue tag n) := by
  refine .plain fun entries => ?_
  unfold plainValue
  split
  · next text htext =>
    cases hv : scalarValue tag text n.start with
    | ok v => exact scalarValue_ne_map hv entries
    | error => simp [Except.toOption]
  · simp

-- Entries that are taken over come from maps anywhere below, so all readers of a tree go
-- together.
mutual
theorem sound_valueOf (n : Node) : Sound (valueOf n) := by
  match n with
  | .scalar tag text start =>
    rw [valueOf]
    exact sound_plainValue ..
  | .list tag items start =>
    rw [valueOf]
    exact .plain (by simp)
  | .map tag es start =>
    have hall : ∀ e ∈ takenOver es ++ own es, Sound e.2 := fun e he =>
      (List.mem_append.mp he).elim (sound_takenOver es e) (sound_own es e)
    unfold valueOf
    split
    · exact .ofList hall
    · exact .plain (by simp)
    · exact sound_plainValue ..
  | .loop kind start =>
    unfold valueOf
    split
    · exact .plain (by simp)
    · exact .nil
termination_by sizeOf n
theorem sound_own (es : List (Node × Node)) : ∀ e ∈ own es, Sound e.2 := by
  match es with
  | [] => simp [own]
  | (key, value) :: rest =>
    unfold own
    split
    · exact sound_own rest
    · exact List.forall_mem_cons.mpr ⟨sound_valueOf value, sound_own rest⟩
termination_by sizeOf es
theorem sound_takenOver (es : List (Node × Node)) : ∀ e ∈ takenOver es, Sound e.2 := by
  match es with
  | [] => simp [takenOver]
  | (key, value) :: rest =>
    unfold takenOver
    split
    · exact fun e he =>
        (List.mem_append.mp he).elim (sound_takenFrom value e) (sound_takenOver rest e)
    · exact sound_takenOver rest
termination_by sizeOf es
theorem sound_takenFrom (n : Node) : ∀ e ∈ takenFrom n, Sound e.2 := by
  match n with
  | .map tag es start =>
    rw [takenFrom]
    exact fun e he => (List.mem_append.mp he).elim (sound_takenOver es e) (sound_own es e)
  | .list tag items start =>
    rw [takenFrom]
    exact sound_takenFromAll items
  | .scalar .. | .loop .. => simp [takenFrom]
termination_by sizeOf n
theorem sound_takenFromAll (ns : List Node) : ∀ e ∈ takenFromAll ns, Sound e.2 := by
  match ns with
  | [] => simp [takenFromAll]
  | n :: rest =>
    rw [takenFromAll]
    exact fun e he =>
      (List.mem_append.mp he).elim (sound_takenFromAll rest e) (sound_takenFrom n e)
termination_by sizeOf ns
end

theorem sound_build {tree : Node} {v : Value} (h : build tree = .ok v) : Sound v := by
  unfold build at h
  split at h
  · cases h
  · cases h
    exact sound_valueOf tree

theorem sound_readWalled {cs : List Char} {wall : Option Wall} {v : Value}
    (h : readWalled cs wall = .ok v) : Sound v := by
  unfold readWalled at h
  obtain ⟨tree, -, hbuild⟩ := both_of_bind h
  cases tree with
  | some tree => exact sound_build hbuild
  | none =>
    cases hbuild
    exact .plain (by simp)

/-- A YAML file gives a sound value. -/
theorem sound_read {file text : String} {v : Value} (h : read file text = .ok v) : Sound v := by
  unfold read at h
  exact sound_readWalled (CommandLine.ok_of_mapError h)

end Yaml

/-! ## JSON -/

namespace Json

theorem inherited_sound : Inherited Sound where
  text _ := .plain (by simp)
  word := by
    simp only [words, List.forall_mem_cons, List.not_mem_nil, false_imp_iff, implies_true]
    exact ⟨.plain (by simp), .plain (by simp), .plain (by simp), .plain (by simp),
      .plain (by simp), .plain (by simp), trivial⟩
  number _ hv := by
    obtain ⟨x, rfl⟩ | ⟨n, rfl, -⟩ := hv <;> exact .plain (by simp)
  list _ := .plain (by simp)
  empty := .nil
  put _ hdone hv := hdone.put _ hv

/-- A JSON text gives a sound value. -/
theorem sound_read {room : Nat} {s : String} {v : Value} (h : read room s = .ok v) :
    Sound v := inherited_sound.of_read h

end Json

end SearchQuery
