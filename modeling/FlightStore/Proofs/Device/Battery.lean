/-
Switching after the battery: which profile is taken, and that it is taken once.

The slots are counted from the one in use, in a circle: `byteAfter k` is what the profile `k` slots further asks for.
Each of the two passes over the other slots finds the first one with a property (`find?_otherSlots`). A search that goes
around once, stops at a profile for the battery and keeps the first one that stays in mind ends with the same answer. A
slot that was found has a profile for the battery or one that stays, so a second call keeps it.

Results:
- `autoSelect_follows`: whatever the profiles ask for, whichever is in use and whatever the battery, the rule says which
  one is selected, the device is as after a selection by hand or untouched, and a second call changes nothing.
Witness:
- `autoSelect_follows_mixed`: a profile for the battery is selected, past one that stays.
-/
import FlightStore.Proofs.Device.Handover
import FlightStore.Proofs.Device.Reachable

namespace FlightStore.Device

variable {σ : Type} {d : Device σ} {cells : UInt8} {k : Nat}

/-! ## Around the slots -/

/-- the slot that follows the one in use by `k`, in a circle -/
def slotAfter (d : Device σ) (k : Nat) : Fin pidProfileCount :=
  ⟨(d.activePid + k) % pidProfileCount, Nat.mod_lt _ (by decide)⟩

/-- the byte that the profile of that slot stores -/
def byteAfter (d : Device σ) (k : Nat) : Int8 := d.settings.pidProfiles[d.slotAfter k].cellByte

/-- among the slots that follow before the one in use comes again, the first with a property is `k` further -/
structure FirstAfter (P : Nat → Prop) (k : Nat) : Prop where
  pos : 1 ≤ k
  lt : k < pidProfileCount
  holds : P k
  before : ∀ j, 1 ≤ j → j < k → ¬ P j

/-- whether the profile in use goes with a battery: it asks for this number of cells, or it stays -/
def GoesWith (d : Device σ) (cells : UInt8) : Prop := Matches cells (d.byteAfter 0) ∨ d.byteAfter 0 = 0

instance (d : Device σ) (cells : UInt8) : Decidable (d.GoesWith cells) :=
  inferInstanceAs (Decidable (Matches cells (d.byteAfter 0) ∨ d.byteAfter 0 = 0))

theorem slotHas_slotAfter (p : Int8 → Bool) (k : Nat) : d.slotHas p (d.slotAfter k) = p (d.byteAfter k) := by
  have hprofile : d.settings.pidProfiles[(d.slotAfter k : Nat)]? = some d.settings.pidProfiles[d.slotAfter k] :=
    Vector.getElem?_eq_getElem (d.slotAfter k).isLt
  rw [slotHas, hprofile]
  rfl

theorem slotHas_activePid (h : d.activePid < pidProfileCount) (p : Int8 → Bool) :
    d.slotHas p d.activePid = p (d.byteAfter 0) := by
  have hactive : (d.slotAfter 0 : Nat) = d.activePid := Nat.mod_eq_of_lt h
  rw [← slotHas_slotAfter p 0, hactive]

/-- the first of the other slots with a property is found by counting on from the slot in use -/
theorem find?_otherSlots (p : Int8 → Bool) :
    (otherSlots d.activePid).find? (d.slotHas p) =
      ((List.range' 1 (pidProfileCount - 1)).find? fun k => p (d.byteAfter k)).map fun k => (d.slotAfter k : Nat) := by
  have hslots : otherSlots d.activePid =
      (List.range' 1 (pidProfileCount - 1)).map fun k => (d.slotAfter k : Nat) := rfl
  have hbytes : d.slotHas p ∘ (fun k => (d.slotAfter k : Nat)) = fun k => p (d.byteAfter k) := by
    funext k
    exact slotHas_slotAfter p k
  rw [hslots, List.find?_map, hbytes]

theorem find?_of_first {P : Int8 → Prop} [DecidablePred P] (h : FirstAfter (fun k => P (d.byteAfter k)) k) :
    (otherSlots d.activePid).find? (d.slotHas fun b => P b) = some (d.slotAfter k : Nat) := by
  have hfound : (List.range' 1 (pidProfileCount - 1)).find? (fun k => P (d.byteAfter k)) = some k := by
    rw [List.find?_range'_eq_some, List.mem_range'_1]
    have hlt := h.lt
    refine ⟨decide_eq_true h.holds, ⟨h.pos, by omega⟩, fun j hj hjk => ?_⟩
    simpa using h.before j hj hjk
  rw [find?_otherSlots, hfound]
  rfl

theorem find?_of_none {P : Int8 → Prop} [DecidablePred P]
    (h : ∀ k, 1 ≤ k → k < pidProfileCount → ¬ P (d.byteAfter k)) :
    (otherSlots d.activePid).find? (d.slotHas fun b => P b) = none := by
  have hnone : (List.range' 1 (pidProfileCount - 1)).find? (fun k => P (d.byteAfter k)) = none := by
    rw [List.find?_range'_eq_none]
    intro j hj hlt
    simpa using h j hj (by omega)
  rw [find?_otherSlots, hnone]
  rfl

/-! ## The rule -/

theorem autoSelect_of_goesWith (hactive : d.activePid < pidProfileCount) (h : d.GoesWith cells) :
    d.autoSelect cells = d := by
  have hhas : d.slotHas (fun b => Matches cells b ∨ b = CellSelector.stayByte) d.activePid = true := by
    rw [slotHas_activePid hactive]
    exact decide_eq_true h
  exact if_pos hhas

/-- a profile that does not go with the battery makes way for the candidate, if there is one -/
theorem autoSelect_of_not_goesWith (hactive : d.activePid < pidProfileCount) (h : ¬ d.GoesWith cells) :
    d.autoSelect cells = (d.candidate? cells).elim d fun slot => d.selectPid (UInt8.ofNat slot) := by
  have hhas : ¬ d.slotHas (fun b => Matches cells b ∨ b = CellSelector.stayByte) d.activePid = true := by
    rw [slotHas_activePid hactive]
    exact fun hon => h (of_decide_eq_true hon)
  rw [autoSelect_eq, autoSlot?, if_neg hhas]

theorem candidate?_of_match (h : FirstAfter (fun k => Matches cells (d.byteAfter k)) k) :
    d.candidate? cells = some (d.slotAfter k : Nat) := by
  rw [candidate?, find?_of_first h]

theorem candidate?_of_no_match (h : ∀ k, 1 ≤ k → k < pidProfileCount → ¬ Matches cells (d.byteAfter k)) :
    d.candidate? cells = (otherSlots d.activePid).find? (d.slotHas (· = CellSelector.stayByte)) := by
  rw [candidate?, find?_of_none h]

/-! ## A second call -/

theorem slotHas_mono {p q : Int8 → Bool} {slot : Nat} (h : d.slotHas p slot = true)
    (hpq : ∀ b, p b = true → q b = true) : d.slotHas q slot = true := by
  unfold slotHas at h ⊢
  split at h
  · exact hpq _ h
  · exact Bool.noConfusion h

/-- the slot that is selected has a profile that goes with the battery -/
theorem slotHas_of_autoSlot? {slot : Nat} (h : d.autoSlot? cells = some slot) :
    d.slotHas (fun b => Matches cells b ∨ b = CellSelector.stayByte) slot = true := by
  unfold autoSlot? at h
  split_ifs at h
  unfold candidate? at h
  split at h
  · rename_i found hfound
    obtain rfl : found = slot := Option.some.inj h
    exact slotHas_mono (List.find?_some hfound) fun b hb => decide_eq_true (Or.inl (of_decide_eq_true hb))
  · exact slotHas_mono (List.find?_some h) fun b hb => decide_eq_true (Or.inr (of_decide_eq_true hb))

/-- a selection puts a slot in use and leaves the profiles as they are -/
theorem slotHas_selectPid {index : UInt8} (h : index.toNat < pidProfileCount) (p : Int8 → Bool) :
    (d.selectPid index).slotHas p (d.selectPid index).activePid = d.slotHas p index.toNat := by
  rw [selectPid_eq, dif_pos h]
  rfl

/-- **One switch is enough.** -/
theorem autoSelect_autoSelect (d : Device σ) (cells : UInt8) :
    (d.autoSelect cells).autoSelect cells = d.autoSelect cells := by
  rcases hslot : d.autoSlot? cells with _ | slot
  · have hsame : d.autoSelect cells = d := by
      rw [autoSelect_eq, hslot]
      rfl
    rw [hsame, hsame]
  · have hlt := autoSlot?_lt hslot
    have hselected : d.autoSelect cells = d.selectPid (UInt8.ofNat slot) := by
      rw [autoSelect_eq, hslot]
      rfl
    rw [hselected]
    refine if_pos ?_
    rw [slotHas_selectPid (by rwa [toNat_ofNat_slot hlt]), toNat_ofNat_slot hlt]
    exact slotHas_of_autoSlot? hslot

/-! ## All of it -/

/-- what becomes of a device with a battery: the rule, which covers every case, and that it settles -/
structure FollowsBattery (d : Device σ) (cells : UInt8) (d' : Device σ) : Prop where
  /-- a profile that goes with the battery is kept, and nothing is asked of the firmware -/
  kept : d.GoesWith cells → d' = d
  /-- the first other profile for the battery is selected -/
  matched : ∀ k, ¬ d.GoesWith cells → FirstAfter (fun k => Matches cells (d.byteAfter k)) k →
    d' = d.selectPid (UInt8.ofNat (d.slotAfter k))
  /-- without one, the first other profile that stays is selected -/
  stayed : ∀ k, ¬ d.GoesWith cells → (∀ j, 1 ≤ j → j < pidProfileCount → ¬ Matches cells (d.byteAfter j)) →
    FirstAfter (fun k => d.byteAfter k = 0) k → d' = d.selectPid (UInt8.ofNat (d.slotAfter k))
  /-- without either, nothing changes, and nothing is asked of the firmware -/
  unmatched : (∀ j, 1 ≤ j → j < pidProfileCount → ¬ Matches cells (d.byteAfter j) ∧ d.byteAfter j ≠ 0) → d' = d
  /-- a search that goes around once finds the same -/
  searched : ¬ d.GoesWith cells →
    ∃ found, Search.Ends d cells d.search found ∧ d' = found.elim d fun slot => d.selectPid (UInt8.ofNat slot)
  /-- a second call changes nothing, and asks nothing of the firmware -/
  settled : d'.autoSelect cells = d'

/-- **Switching after the battery follows its rule and settles.** For any bytes in the profiles, any profile in use and
any number of cells. -/
theorem autoSelect_follows (d : Device σ) (hactive : d.activePid < pidProfileCount) (cells : UInt8) :
    FollowsBattery d cells (d.autoSelect cells) where
  kept h := autoSelect_of_goesWith hactive h
  matched k h hfirst := by
    rw [autoSelect_of_not_goesWith hactive h, candidate?_of_match hfirst]
    rfl
  stayed k h hnone hfirst := by
    have hstays : (otherSlots d.activePid).find? (d.slotHas (· = CellSelector.stayByte)) = some (d.slotAfter k : Nat) :=
      find?_of_first (P := (· = CellSelector.stayByte)) hfirst
    rw [autoSelect_of_not_goesWith hactive h, candidate?_of_no_match hnone, hstays]
    rfl
  unmatched hnone := by
    by_cases h : d.GoesWith cells
    · exact autoSelect_of_goesWith hactive h
    · have hmatch : ∀ k, 1 ≤ k → k < pidProfileCount → ¬ Matches cells (d.byteAfter k) :=
        fun k hk hlt => (hnone k hk hlt).1
      have hstays : (otherSlots d.activePid).find? (d.slotHas (· = CellSelector.stayByte)) = none :=
        find?_of_none (P := (· = CellSelector.stayByte)) fun k hk hlt => (hnone k hk hlt).2
      rw [autoSelect_of_not_goesWith hactive h, candidate?_of_no_match hmatch, hstays]
      rfl
  searched h := ⟨d.candidate? cells, ends_search hactive cells, autoSelect_of_not_goesWith hactive h⟩
  settled := autoSelect_autoSelect d cells

/-- a device with the second profile in use, which has no preference; the third one stays, the fourth asks for 4 cells -/
def mixedProfiles : Device Memory :=
  { Device.start .host ({} : Memory) .bmi160 with
    activePid := 1
    settings := { pidProfiles := #v[{ cellByte := 4 }, { cellByte := -1 }, { cellByte := 0 }, { cellByte := 4 }] } }

/-- the fourth profile is selected for 4 cells, past the third, and before the first, which asks for 4 cells as well; for
255 cells the third is selected, as no preference is not the number 255 -/
theorem autoSelect_follows_mixed :
    mixedProfiles.activePid < pidProfileCount ∧ mixedProfiles.autoSelect 4 = mixedProfiles.selectPid 3 ∧
      (mixedProfiles.autoSelect 4).autoSelect 4 = mixedProfiles.autoSelect 4 ∧
      mixedProfiles.autoSelect 255 = mixedProfiles.selectPid 2 := by
  have hactive : mixedProfiles.activePid < pidProfileCount := by decide
  have hfour := autoSelect_follows mixedProfiles hactive 4
  have hmany := autoSelect_follows mixedProfiles hactive 255
  have hnone : ∀ j, 1 ≤ j → j < pidProfileCount → ¬ Matches 255 (mixedProfiles.byteAfter j) := by
    intro j hpos hlt
    have hlt : j < 4 := hlt
    interval_cases j <;> decide
  have hmatch : FirstAfter (fun k => Matches 4 (mixedProfiles.byteAfter k)) 2 := by
    refine ⟨by decide, by decide, by decide, fun j hpos hlt => ?_⟩
    obtain rfl : j = 1 := by omega
    decide
  have hstay : FirstAfter (fun k => mixedProfiles.byteAfter k = 0) 1 :=
    ⟨by decide, by decide, by decide, fun j hpos hlt => absurd hlt (Nat.not_lt.2 hpos)⟩
  exact ⟨hactive, hfour.matched 2 (by decide) hmatch, hfour.settled, hmany.stayed 1 (by decide) hnone hstay⟩

end FlightStore.Device
