/-
The active slots of every device that can be reached.

A new device uses the first profiles. From there operations may follow each other in any order, with any settings put
into memory between them and any medium below. Each of them leaves active slots that have profiles
(`InRange.perform`): an index past the last is never made active. So the profiles in use can always be read, and the
search for a profile after the battery, which walks in a circle until it is back at the slot in use, reads existing
slots only and ends (`ends_search`). What a repair was part of also points the active slots at the stored indices
(`Realigns`).
-/
import FlightStore.Proofs.Device.Slots

namespace FlightStore.Device

variable {σ ε : Type} {d : Device σ} {cells : UInt8}

/-- both active slots have profiles -/
structure InRange (d : Device σ) : Prop where
  pid : d.activePid < pidProfileCount
  rate : d.activeRate < rateProfileCount

namespace InRange

theorem pidProfile?_eq (h : d.InRange) : ∃ profile, d.pidProfile? = some profile := by
  have hpid := h.pid
  exact ⟨d.settings.pidProfiles[d.activePid], Vector.getElem?_eq_getElem hpid⟩

theorem rateProfile?_eq (h : d.InRange) : ∃ profile, d.rateProfile? = some profile := by
  have hrate := h.rate
  exact ⟨d.settings.rateProfiles[d.activeRate], Vector.getElem?_eq_getElem hrate⟩

end InRange

/-! ## The search for a profile -/

/-- a search between two of its steps: the slot to look at, and the first one seen that stays -/
structure Search where
  slot : Nat
  fallback : Option Nat := none

namespace Search

/-- one step: an answer, or the search from the next slot; nothing if the slot has no profile to look at -/
def step (d : Device σ) (cells : UInt8) (s : Search) : Option (Option Nat ⊕ Search) :=
  if s.slot = d.activePid then some (.inl s.fallback)
  else
    d.settings.pidProfiles[s.slot]?.map fun profile =>
      if Matches cells profile.cellByte then .inl (some s.slot)
      else
        let stays := if profile.cellByte = CellSelector.stayByte then some s.slot else none
        .inr ⟨(s.slot + 1) % pidProfileCount, s.fallback.or stays⟩

/-- step by step, the search ends with an answer -/
inductive Ends (d : Device σ) (cells : UInt8) : Search → Option Nat → Prop where
  | answer {s : Search} {found : Option Nat} (h : s.step d cells = some (.inl found)) : Ends d cells s found
  | next {s s' : Search} {found : Option Nat} (h : s.step d cells = some (.inr s')) (h' : Ends d cells s' found) :
      Ends d cells s found

/-- back at the slot in use, the first slot that stays is the answer -/
theorem step_active (s : Search) (h : s.slot = d.activePid) : s.step d cells = some (.inl s.fallback) := if_pos h

/-- any other slot is the answer if its profile is for this number of cells; else the search goes on -/
theorem step_other (cells : UInt8) (s : Search) (h : s.slot ≠ d.activePid) (hslot : s.slot < pidProfileCount) :
    s.step d cells = some (if d.slotHas (Matches cells ·) s.slot then .inl (some s.slot)
      else .inr ⟨(s.slot + 1) % pidProfileCount,
        s.fallback.or (if d.slotHas (· = CellSelector.stayByte) s.slot then some s.slot else none)⟩) := by
  have hprofile : d.settings.pidProfiles[s.slot]? = some d.settings.pidProfiles[s.slot] :=
    Vector.getElem?_eq_getElem hslot
  simp only [step, slotHas, if_neg h, hprofile, Option.map_some, decide_eq_true_eq]

/-- with `n` slots left on the way around, the search ends with the first of them for this number of cells, or else with
the first that stays, one seen before coming first -/
theorem ends_around (h : d.activePid < pidProfileCount) (n : Nat) :
    ∀ (k : Nat) (fallback : Option Nat), k + n = pidProfileCount - 1 →
      let left := (List.range' k n).map fun k => (d.activePid + 1 + k) % pidProfileCount
      Ends d cells ⟨(d.activePid + 1 + k) % pidProfileCount, fallback⟩
        ((left.find? (d.slotHas (Matches cells ·))).or
          (fallback.or (left.find? (d.slotHas (· = CellSelector.stayByte))))) := by
  induction n with
  | zero =>
    intro k fallback hk
    have hback : (d.activePid + 1 + k) % pidProfileCount = d.activePid := by
      simp only [pidProfileCount] at h hk ⊢
      omega
    simpa using Ends.answer (step_active ⟨(d.activePid + 1 + k) % pidProfileCount, fallback⟩ hback)
  | succ n ih =>
    intro k fallback hk
    set slot := (d.activePid + 1 + k) % pidProfileCount with hslot
    have hother : slot ≠ d.activePid := by
      simp only [pidProfileCount] at h hk hslot
      omega
    have hlt : slot < pidProfileCount := Nat.mod_lt _ (by decide)
    have hnext : (slot + 1) % pidProfileCount = (d.activePid + 1 + (k + 1)) % pidProfileCount := by
      rw [hslot, Nat.mod_add_mod, Nat.add_assoc]
    have hstep := step_other cells ⟨slot, fallback⟩ hother hlt
    dsimp only at hstep
    rw [hnext] at hstep
    simp only [List.range'_succ, List.map_cons, ← hslot]
    by_cases hmatch : d.slotHas (Matches cells ·) slot = true
    · rw [if_pos hmatch] at hstep
      rw [List.find?_cons_of_pos hmatch]
      exact .answer hstep
    · rw [if_neg hmatch] at hstep
      have hrest := ih (k + 1) (fallback.or (if d.slotHas (· = CellSelector.stayByte) slot then some slot else none))
        (by omega)
      refine .next hstep ?_
      rw [List.find?_cons_of_neg hmatch, List.find?_cons]
      cases hstays : d.slotHas (· = CellSelector.stayByte) slot <;> simpa [hstays, Option.or_assoc] using hrest

end Search

/-- the search starts at the slot after the one in use -/
def search (d : Device σ) : Search := ⟨(d.activePid + 1) % pidProfileCount, none⟩

/-- the candidates are found in the order of the search -/
theorem ends_search (h : d.activePid < pidProfileCount) (cells : UInt8) :
    Search.Ends d cells d.search (d.candidate? cells) := by
  have hcandidate : d.candidate? cells =
      ((otherSlots d.activePid).find? (d.slotHas (Matches cells ·))).or
        ((otherSlots d.activePid).find? (d.slotHas (· = CellSelector.stayByte))) := by
    unfold candidate?
    cases (otherSlots d.activePid).find? (d.slotHas (Matches cells ·)) <;> rfl
  rw [hcandidate]
  exact Search.ends_around h (pidProfileCount - 1) 0 none (Nat.zero_add _)

/-! ## Operations -/

theorem Aligned.inRange (h : d.Aligned) : d.InRange where
  pid := h.pid ▸ h.indexed.pid
  rate := h.rate ▸ h.indexed.rate

theorem InRange.selectPid (h : d.InRange) (index : UInt8) : (d.selectPid index).InRange := by
  rw [selectPid_eq]
  split_ifs with hindex
  · exact ⟨hindex, h.rate⟩
  · exact ⟨h.pid, h.rate⟩

theorem InRange.autoSelect (h : d.InRange) (cells : UInt8) : (d.autoSelect cells).InRange := by
  rw [autoSelect_eq]
  cases d.autoSlot? cells with
  | none => exact h
  | some slot => exact h.selectPid (UInt8.ofNat slot)

theorem InRange.selectRate (h : d.InRange) (index : UInt8) : (d.selectRate index).InRange := by
  rw [selectRate_eq]
  split_ifs with hindex
  · exact ⟨h.pid, hindex⟩
  · exact h

theorem InRange.resetPid (h : d.InRange) (slot : Nat) : (d.resetPid slot).2.InRange := by
  rw [resetPid_frame]
  exact ⟨h.pid, h.rate⟩

theorem InRange.copyPid (h : d.InRange) (src dst : Nat) : (d.copyPid src dst).2.InRange := by
  rw [copyPid_frame]
  exact ⟨h.pid, h.rate⟩

variable [Storage σ ε]

/-- a reset that was done points the active slots at the stored indices -/
theorem aligned_reset {custom : Bool} (h : (d.reset custom).1 = true) : (d.reset custom).2.Aligned := by
  rcases d.reset_cases custom with hreset | ⟨s, hreset⟩
  · rw [hreset] at h
    exact Bool.noConfusion h
  · rw [hreset]
    exact aligned_writeUnmodified _

/-- what points the active slots at the stored indices, which then have slots -/
structure Realigns (d : Device σ) : Prop where
  load : d.load.2.Aligned
  repair : d.repairSettings.2.Aligned
  writeUnmodified : d.writeUnmodified.2.Aligned
  write : d.write.2.Aligned
  writeWithFeatures : ∀ fs, (d.writeWithFeatures fs).2.Aligned
  /-- unless there were no custom defaults to take -/
  reset : ∀ custom, (d.reset custom).1 = true → (d.reset custom).2.Aligned
  save : d.save.Aligned

theorem realigns (d : Device σ) : d.Realigns where
  load := aligned_load d
  repair := aligned_repairSettings d
  writeUnmodified := aligned_writeUnmodified d
  write := aligned_writeUnmodified d.markConfigured
  writeWithFeatures fs := aligned_writeUnmodified (markConfigured { d with settings.features := fs })
  reset _ := aligned_reset
  save := aligned_save d

theorem InRange.reset (h : d.InRange) (custom : Bool) : (d.reset custom).2.InRange := by
  rcases d.reset_cases custom with hreset | ⟨s, hreset⟩
  · rwa [hreset]
  · rw [hreset]
    exact (aligned_writeUnmodified _).inRange

theorem InRange.ensureIntact (h : d.InRange) : d.ensureIntact.InRange := by
  rw [ensureIntact_eq]
  split_ifs
  · exact ⟨h.pid, h.rate⟩
  · exact (aligned_writeUnmodified _).inRange

/-- no operation makes a slot active that has no profile -/
theorem InRange.perform (h : d.InRange) (op : Operation) : (d.perform op).InRange := by
  cases op with
  | load => exact (realigns d).load.inRange
  | writeUnmodified => exact (realigns d).writeUnmodified.inRange
  | write => exact (realigns d).write.inRange
  | writeWithFeatures fs => exact ((realigns d).writeWithFeatures fs).inRange
  | reset custom => exact h.reset custom
  | ensureIntact => exact h.ensureIntact
  | save => exact (realigns d).save.inRange
  | repairSettings => exact (realigns d).repair.inRange
  | selectPid index => exact h.selectPid index
  | autoSelect cells => exact h.autoSelect cells
  | selectRate index => exact h.selectRate index
  | resetPid slot => exact h.resetPid slot
  | copyPid src dst => exact h.copyPid src dst
  | markDirty | requireReboot | edit s | sense sensor => exact ⟨h.pid, h.rate⟩

theorem InRange.run (h : d.InRange) (ops : List Operation) : (d.run ops).InRange := by
  induction ops generalizing d with
  | nil => exact h
  | cons op ops ih =>
    rw [run_cons]
    exact ih (h.perform op)

/-- **Active slots always have profiles.** From a new device on, whatever is done, whatever is put into memory and
whatever the medium answers, the profiles in use exist, and the search for another one reads existing slots and ends
with the candidate. Loads, repairs, writes, resets and saves leave the stored indices active. -/
theorem run_inRange (t : Target) (m : σ) (sensor : SensorModel) (ops : List Operation) :
    let d := (Device.start t m sensor).run ops
    d.InRange ∧ (∃ profile, d.pidProfile? = some profile) ∧ (∃ profile, d.rateProfile? = some profile) ∧
      (∀ cells, Search.Ends d cells d.search (d.candidate? cells)) ∧ d.Realigns := by
  intro d
  have hstart : (Device.start t m sensor).InRange :=
    ⟨show 0 < pidProfileCount by decide, show 0 < rateProfileCount by decide⟩
  have hrange : d.InRange := hstart.run ops
  exact ⟨hrange, hrange.pidProfile?_eq, hrange.rateProfile?_eq, ends_search hrange.pid, realigns d⟩

end FlightStore.Device
