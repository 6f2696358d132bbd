/-
Links between modes, and stored indices, after repair.

Dropping modes ends with no invalid link (`firstInvalidLink_dropInvalidLinks`) and only takes conditions away, so that
a mode without conditions stays without. `Drops` follows the rounds of the loop and names the mode that goes in each;
what is true of a run of rounds is proved by induction on it, and `fixModeLinks_exact` puts it together: no chain is
left, only modes with an invalid link are lost, and a change is reported exactly if there is one. Stored indices end up
within the slots (`indexed_fixIndices`).
-/
import FlightStore.Proofs.Repair.Settled
import FlightStore.Repair.Pass

namespace FlightStore

/-- both stored indices have a slot -/
structure SystemState.Indexed (s : SystemState) : Prop where
  rate : s.rateProfileIndex.toNat < rateProfileCount
  pid : s.pidProfileIndex.toNat < pidProfileCount

/-- a mode without conditions stays without when conditions are taken away -/
theorem ModeConditions.Present.mono {l l' : ModeConditions} {m : Mode} (hsub : l'.items ⊆ l.items)
    (h : ModeConditions.Present l' m) : ModeConditions.Present l m := by
  obtain ⟨c, hc, hm⟩ := h
  exact ⟨c, hsub hc, hm⟩

namespace Repair

/-! ## Links -/

/-- the loop that drops modes ends only without an invalid link -/
theorem firstInvalidLink_dropInvalidLinks (cs : List ModeCondition) :
    firstInvalidLink (dropInvalidLinks cs) = none := by
  fun_induction dropInvalidLinks cs with
  | case1 _ h => exact h
  | case2 _ _ _ ih => exact ih

/-- the loop that drops modes keeps the order of what it keeps -/
theorem dropInvalidLinks_sublist (cs : List ModeCondition) : (dropInvalidLinks cs).Sublist cs := by
  fun_induction dropInvalidLinks cs with
  | case1 => exact List.Sublist.refl _
  | case2 _ _ _ ih => exact ih.trans List.filter_sublist

theorem dropInvalidLinks_eq_self {cs : List ModeCondition} (h : firstInvalidLink cs = none) :
    dropInvalidLinks cs = cs := by
  rw [dropInvalidLinks]
  split
  · rfl
  · rename_i c hc
    rw [h] at hc
    cases hc

theorem fixModeLinks_eq_pure {l : ModeConditions} (h : firstInvalidLink l.items = none) : fixModeLinks l = pure l := by
  have hvalue : (fixModeLinks l).value = l := BoundedList.ext (dropInvalidLinks_eq_self h)
  have hchanged : (fixModeLinks l).changed = false := congrArg Option.isSome h
  calc fixModeLinks l = ⟨(fixModeLinks l).value, (fixModeLinks l).changed⟩ := rfl
    _ = pure l := by rw [hvalue, hchanged]; rfl

theorem fixModeLinks_subset (l : ModeConditions) : (fixModeLinks l).value.items ⊆ l.items :=
  (dropInvalidLinks_sublist l.items).subset

/-! ## Rounds -/

theorem linked_iff {cs : List ModeCondition} {m : Mode} :
    ModeConditions.Linked cs m ↔ ∃ c ∈ cs, c.mode = m ∧ ∃ leader, c.linkedTo = some leader := by
  simp only [ModeConditions.Linked, Option.isSome_iff_exists]

theorem invalidLink_iff {cs : List ModeCondition} {c : ModeCondition} :
    InvalidLink cs c ↔ ∃ leader, c.linkedTo = some leader ∧
      (c.mode = .arm ∨ leader = .arm ∨ ModeConditions.Linked cs leader) := by
  unfold InvalidLink
  cases c.linkedTo with
  | none => simp
  | some leader => simp

/-- among more conditions an invalid link is still invalid -/
theorem InvalidLink.mono {cs cs' : List ModeCondition} {c : ModeCondition} (hsub : cs' ⊆ cs) (h : InvalidLink cs' c) :
    InvalidLink cs c := by
  obtain ⟨leader, hleader, hinvalid⟩ := invalidLink_iff.1 h
  refine invalidLink_iff.2 ⟨leader, hleader, ?_⟩
  rcases hinvalid with harm | harm | ⟨d, hd, hlinked⟩
  · exact Or.inl harm
  · exact Or.inr (Or.inl harm)
  · exact Or.inr (Or.inr ⟨d, hsub hd, hlinked⟩)

/-- a run of the loop: each round drops the mode of the first invalid link, and a round without one is the last -/
inductive Drops : List ModeCondition → List Mode → List ModeCondition → Prop where
  | done {cs : List ModeCondition} (h : firstInvalidLink cs = none) : Drops cs [] cs
  | round {cs left : List ModeCondition} {ms : List Mode} {c : ModeCondition} (h : firstInvalidLink cs = some c)
      (h' : Drops (ModeConditions.without cs c.mode) ms left) : Drops cs (c.mode :: ms) left

/-- the loop ends, whatever the links are -/
theorem exists_drops (cs : List ModeCondition) : ∃ ms, Drops cs ms (dropInvalidLinks cs) := by
  fun_induction dropInvalidLinks cs with
  | case1 cs h => exact ⟨[], .done h⟩
  | case2 cs c h ih =>
    obtain ⟨ms, hms⟩ := ih
    exact ⟨c.mode :: ms, .round h hms⟩

namespace Drops

variable {cs left : List ModeCondition} {ms : List Mode}

/-- each round takes a condition away -/
theorem length_le (h : Drops cs ms left) : ms.length ≤ cs.length := by
  induction h with
  | done => exact Nat.zero_le _
  | round h _ ih => exact Nat.lt_of_le_of_lt ih (length_without_lt h)

/-- what is left are the conditions for all other modes, in their order -/
theorem eq_filter (h : Drops cs ms left) : left = cs.filter (fun c => c.mode ∉ ms) := by
  induction h with
  | done => simp
  | @round cs left ms c _ _ ih =>
    rw [ih, ModeConditions.without, List.filter_filter]
    refine List.filter_congr fun d _ => ?_
    simp [Bool.and_comm]

/-- a mode is dropped for a link that was invalid from the start, since links only become valid on the way -/
theorem invalid (h : Drops cs ms left) : ∀ m ∈ ms, ∃ c ∈ cs, c.mode = m ∧ InvalidLink cs c := by
  induction h with
  | done => intro m hm; exact absurd hm List.not_mem_nil
  | @round cs left ms c hfirst _ ih =>
    intro m hm
    rcases List.mem_cons.1 hm with rfl | hm
    · exact ⟨c, List.mem_of_find?_eq_some hfirst, rfl, by simpa using List.find?_some hfirst⟩
    · obtain ⟨d, hd, hmode, hinvalid⟩ := ih m hm
      have hsub : ModeConditions.without cs c.mode ⊆ cs := List.filter_sublist.subset
      exact ⟨d, hsub hd, hmode, hinvalid.mono hsub⟩

theorem firstInvalidLink_eq_none (h : Drops cs ms left) : firstInvalidLink left = none := by
  induction h with
  | done h => exact h
  | round _ _ ih => exact ih

/-- without an invalid link the leaders of links are neither arming nor linked themselves -/
theorem valid (h : Drops cs ms left) {c : ModeCondition} (hc : c ∈ left) {leader : Mode}
    (hleader : c.linkedTo = some leader) :
    c.mode ≠ .arm ∧ leader ≠ .arm ∧ ∀ d ∈ left, d.mode = leader → d.linkedTo = none := by
  have hvalid : ¬ InvalidLink left c := by
    have hnone := List.find?_eq_none.1 h.firstInvalidLink_eq_none c hc
    simpa using hnone
  have hcause : ¬ (c.mode = .arm ∨ leader = .arm ∨ ModeConditions.Linked left leader) := fun hcause =>
    hvalid (invalidLink_iff.2 ⟨leader, hleader, hcause⟩)
  obtain ⟨hmode, hleader, hlinked⟩ := by simpa only [not_or] using hcause
  refine ⟨hmode, hleader, fun d hd hm => ?_⟩
  by_contra hsome
  exact hlinked ⟨d, hd, hm, Option.isSome_iff_ne_none.2 hsome⟩

end Drops

/-- a change is reported exactly if the list is another one -/
theorem changed_fixModeLinks (l : ModeConditions) : (fixModeLinks l).changed = true ↔ (fixModeLinks l).value ≠ l := by
  cases hfirst : firstInvalidLink l.items with
  | none =>
    rw [fixModeLinks_eq_pure hfirst]
    simp only [Fixed.value_pure, ne_eq, not_true_eq_false, iff_false]
    exact Bool.false_ne_true
  | some c =>
    have hchanged : (fixModeLinks l).changed = true := congrArg Option.isSome hfirst
    refine iff_of_true hchanged fun heq => ?_
    -- the condition with the first invalid link would have to be valid
    have hnone := firstInvalidLink_dropInvalidLinks l.items
    have hitems : dropInvalidLinks l.items = l.items := congrArg BoundedList.items heq
    rw [hitems, hfirst] at hnone
    cases hnone

/-- what repair does to the links of a list, where `dropped` are the modes it drops, one in each round -/
structure LinksRepaired (l : ModeConditions) (fixed : Fixed ModeConditions) (dropped : List Mode) : Prop where
  rounds : Drops l.items dropped fixed.value.items
  few : dropped.length ≤ l.items.length
  /-- no chain is left, and no link of arming or to arming -/
  valid : ∀ c ∈ fixed.value.items, ∀ leader, c.linkedTo = some leader →
    c.mode ≠ .arm ∧ leader ≠ .arm ∧ ∀ d ∈ fixed.value.items, d.mode = leader → d.linkedTo = none
  kept : fixed.value.items = l.items.filter (fun c => c.mode ∉ dropped)
  /-- a mode is dropped only for a link that was invalid before the repair -/
  cause : ∀ m ∈ dropped, ∃ c ∈ l.items, c.mode = m ∧ ∃ leader, c.linkedTo = some leader ∧
    (m = .arm ∨ leader = .arm ∨ ∃ d ∈ l.items, d.mode = leader ∧ ∃ further, d.linkedTo = some further)
  /-- a mode without links keeps its conditions -/
  unlinked : ∀ c ∈ l.items, (∀ d ∈ l.items, d.mode = c.mode → d.linkedTo = none) → c ∈ fixed.value.items
  reported : fixed.changed = true ↔ fixed.value ≠ l

/-- **Links are repaired, and no more than that.** For every list of conditions the loop ends, leaves no link of arming,
to arming or to a mode that follows another one, drops whole modes and only those with such a link, and reports a change
exactly if there is one. -/
theorem fixModeLinks_exact (l : ModeConditions) : ∃ dropped, LinksRepaired l (fixModeLinks l) dropped := by
  obtain ⟨dropped, hrun⟩ := exists_drops l.items
  have hcause : ∀ m ∈ dropped, ∃ c ∈ l.items, c.mode = m ∧ ∃ leader, c.linkedTo = some leader ∧
      (m = .arm ∨ leader = .arm ∨ ∃ d ∈ l.items, d.mode = leader ∧ ∃ further, d.linkedTo = some further) := by
    intro m hm
    obtain ⟨c, hc, rfl, hinvalid⟩ := hrun.invalid m hm
    obtain ⟨leader, hleader, hwhy⟩ := invalidLink_iff.1 hinvalid
    rw [linked_iff] at hwhy
    exact ⟨c, hc, rfl, leader, hleader, hwhy⟩
  refine ⟨dropped, hrun, hrun.length_le, fun c hc leader hleader => hrun.valid hc hleader, hrun.eq_filter, hcause,
    fun c hc hplain => ?_, changed_fixModeLinks l⟩
  have hkept : c.mode ∉ dropped := by
    intro hm
    obtain ⟨d, hd, hmode, leader, hleader, _⟩ := hcause c.mode hm
    rw [hplain d hd hmode] at hleader
    cases hleader
  have hleft : c ∈ l.items.filter (fun c => c.mode ∉ dropped) := List.mem_filter.2 ⟨hc, by simpa using hkept⟩
  rwa [← hrun.eq_filter] at hleft

/-! ## Indices -/

theorem fixIndices_eq_pure {s : SystemState} (h : s.Indexed) : fixIndices s = pure s := by
  have hrate : ¬ rateProfileCount ≤ s.rateProfileIndex.toNat := Nat.not_le.2 h.rate
  have hpid : ¬ pidProfileCount ≤ s.pidProfileIndex.toNat := Nat.not_le.2 h.pid
  simp only [fixIndices, Fixed.assignIf_neg hrate, Fixed.assignIf_neg hpid, pure_bind]

theorem indexed_fixIndices (s : SystemState) : (fixIndices s).value.Indexed := by
  refine ⟨?_, ?_⟩ <;> simp only [fixIndices, Fixed.value_bind, Fixed.value_pure, Fixed.value_assignIf]
  · split_ifs with h
    · decide
    · exact Nat.not_le.1 h
  · split_ifs with h
    · decide
    · exact Nat.not_le.1 h

end Repair
end FlightStore
