-- What steps leave behind: the calls that they make are of a sort, and what was told stays.
import SearchQuery.Proofs.Exchanges
import SearchQuery.Proofs.Openings

namespace SearchQuery

/-- All calls between two moments are of a sort. -/
def Makes (p : Call → Prop) (w w' : World) : Prop :=
  ∃ calls, w'.calls = w.calls ++ calls ∧ ∀ c ∈ calls, p c

namespace Makes

variable {p q : Call → Prop} {w w' w'' : World}

theorem still (h : w'.calls = w.calls) : Makes p w w' :=
  ⟨[], by rw [h, List.append_nil], fun _ hc => nomatch hc⟩

theorem step {c : Call} (h : w'.calls = w.calls ++ [c]) (hc : p c) : Makes p w w' :=
  ⟨[c], h, fun d hd => by rwa [List.mem_singleton.mp hd]⟩

theorem trans (hfirst : Makes p w w') (hsecond : Makes p w' w'') : Makes p w w'' := by
  obtain ⟨calls, hcalls, hp⟩ := hfirst
  obtain ⟨more, hmore, hp'⟩ := hsecond
  refine ⟨calls ++ more, by rw [hmore, hcalls, List.append_assoc], fun c hc => ?_⟩
  rcases List.mem_append.mp hc with hc | hc
  · exact hp c hc
  · exact hp' c hc

theorem imp (h : Makes p w w') (hpq : ∀ c, p c → q c) : Makes q w w' := by
  obtain ⟨calls, hcalls, hp⟩ := h
  exact ⟨calls, hcalls, fun c hc => hpq c (hp c hc)⟩

theorem ask {c : Call} (hc : p c) : Along (Makes p) (World.ask c) := fun w => by
  rw [World.run_ask]
  exact step rfl hc

end Makes

theorem path_makes {p : Call → Prop} {allowed : Purpose → Prop}
    (h : ∀ c, allowed c.purpose → p c) : Path (Makes p) allowed where
  refl _ := Makes.still rfl
  trans := Makes.trans
  told _ _ _ _ := Makes.still rfl
  called c hc _ _ := Makes.step rfl (h c hc)
  asked c hc _ := Makes.ask (h c hc)
  made hconnecting kind c hc w := by
    rw [World.run_construct]
    exact Makes.step rfl (h c (hc ▸ hconnecting))

/-- An event was told between two moments. -/
def Tells (e : Event) (w w' : World) : Prop := ∃ told, w'.events = w.events ++ told ∧ e ∈ told

theorem tells_of_append {e : Event} {w w' : World} {told more : List Event}
    (h : w'.events = w.events ++ told ++ [e] ++ more) : Tells e w w' :=
  ⟨told ++ [e] ++ more, by simp [h], by simp⟩

/-- Nothing that was told before is lost. -/
theorem path_told : Path (fun w w' => w.events <+: w'.events) fun _ => True where
  refl _ := List.prefix_rfl
  trans := List.IsPrefix.trans
  told _ _ _ _ := List.prefix_append _ _
  called _ _ _ _ := List.prefix_rfl
  asked c _ _ w := by
    rw [World.run_ask]
    exact List.prefix_rfl
  made _ _ _ _ w := by
    rw [World.run_construct]
    exact List.prefix_rfl

end SearchQuery
