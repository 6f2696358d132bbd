/-
Single values after repair.

`InRange` lists what holds once every single value has been brought into its range: share of the motor output, cell
selector, denominators of the loops, masks and tone of the beeper, and the place of the video transmitter in its table.
-/
import FlightStore.Proofs.Repair.Settled
import FlightStore.Repair.Ranges

namespace FlightStore

/-- the share of the motor output is 1 to 100 and the byte of the cell selector has a meaning -/
structure PidProfile.InRange (p : PidProfile) : Prop where
  outputLimit : ¬ (p.outputLimit = 0 ∨ 100 < p.outputLimit)
  cellByte : CellSelector.ofByte? p.cellByte ≠ none

/-- the masks hold only events they can hold and the tone exists -/
structure Beeper.InRange (b : Beeper) : Prop where
  off : b.off ⊆ .declared
  beaconOff : b.beaconOff ⊆ beaconEvents
  beaconTone : beaconToneMin ≤ b.beaconTone ∧ b.beaconTone ≤ beaconToneMax

/-- band, channel and power lie in a table -/
structure Vtx.InRange (t : VtxTable) (v : Vtx) : Prop where
  channel : v.channel ≤ t.channels
  band : v.band ≤ t.bands
  power : v.power ≤ t.powerLevels

namespace Repair

/-! ## Clamping -/

theorem clamp_eq_self {lo hi v : UInt8} (hlo : lo ≤ v) (hhi : v ≤ hi) : clamp lo hi v = v := by
  unfold clamp
  rw [if_neg (UInt8.not_lt.2 hlo), if_neg (UInt8.not_lt.2 hhi)]

theorem clamp_mem {lo hi : UInt8} (h : lo ≤ hi) (v : UInt8) : lo ≤ clamp lo hi v ∧ clamp lo hi v ≤ hi := by
  unfold clamp
  split_ifs with hlo hhi
  · exact ⟨UInt8.le_refl lo, h⟩
  · exact ⟨h, UInt8.le_refl hi⟩
  · exact ⟨UInt8.not_lt.1 hlo, UInt8.not_lt.1 hhi⟩

/-! ## Profiles and beeper -/

theorem fixProfileRanges_eq_pure {p : PidProfile} (h : p.InRange) : fixProfileRanges p = pure p := by
  simp only [fixProfileRanges, Fixed.assignIf_neg h.outputLimit, Fixed.assignIf_neg h.cellByte, pure_bind]

theorem inRange_fixProfileRanges (p : PidProfile) : (fixProfileRanges p).value.InRange := by
  refine ⟨?_, ?_⟩ <;> simp only [fixProfileRanges, Fixed.value_bind, Fixed.value_pure, Fixed.value_assignIf]
  · split_ifs with h
    · decide
    · exact h
  · split_ifs with h
    · decide
    · exact h

theorem fixBeeper_eq_pure {b : Beeper} (h : b.InRange) : fixBeeper b = pure b := by
  have hoff : ¬ ¬ b.off ⊆ .declared := not_not.2 h.off
  have hbeacon : ¬ ¬ b.beaconOff ⊆ beaconEvents := not_not.2 h.beaconOff
  have htone : ¬ ¬ (beaconToneMin ≤ b.beaconTone ∧ b.beaconTone ≤ beaconToneMax) := not_not.2 h.beaconTone
  simp only [fixBeeper, Fixed.assignIf_neg hoff, Fixed.assignIf_neg hbeacon, Fixed.assignIf_neg htone, pure_bind]

theorem inRange_fixBeeper (b : Beeper) : (fixBeeper b).value.InRange := by
  refine ⟨?_, ?_, ?_⟩ <;> simp only [fixBeeper, Fixed.value_bind, Fixed.value_pure, Fixed.value_assignIf]
  · split_ifs with h
    · exact h
    · decide
  · split_ifs with h
    · exact h
    · decide
  · split_ifs with h
    · exact h
    · decide

/-! ## Video transmitter -/

theorem fixVtx_eq_pure {t : VtxTable} {v : Vtx} (h : v.InRange t) : fixVtx t v = pure v := by
  have hchannel : fixVtxChannel t v = pure v := if_neg (UInt8.not_lt.2 h.channel)
  have hband : fixVtxBand t v = pure v := if_neg (UInt8.not_lt.2 h.band)
  have hpower : ¬ t.powerLevels < v.power := UInt8.not_lt.2 h.power
  simp only [fixVtx, hchannel, hband, fixVtxPower, Fixed.assignIf_neg hpower, pure_bind]

theorem channel_fixVtxChannel (t : VtxTable) (v : Vtx) :
    (fixVtxChannel t v).value.channel = if t.channels < v.channel then 0 else v.channel := by
  unfold fixVtxChannel
  split_ifs <;> rfl

theorem channel_fixVtxBand (t : VtxTable) (v : Vtx) : (fixVtxBand t v).value.channel = v.channel := by
  unfold fixVtxBand
  split_ifs <;> rfl

theorem band_fixVtxBand (t : VtxTable) (v : Vtx) :
    (fixVtxBand t v).value.band = if t.bands < v.band then 0 else v.band := by
  unfold fixVtxBand
  split_ifs <;> rfl

/-- a number past the end of a table is replaced by zero -/
theorem dropped_le (last v : UInt8) : (if last < v then 0 else v) ≤ last := by
  split_ifs with h
  · exact UInt8.zero_le
  · exact UInt8.not_lt.1 h

theorem inRange_fixVtx (t : VtxTable) (v : Vtx) : (fixVtx t v).value.InRange t where
  channel := by
    have h := dropped_le t.channels v.channel
    rwa [← channel_fixVtxChannel, ← channel_fixVtxBand t] at h
  band := by
    have h := dropped_le t.bands (fixVtxChannel t v).value.band
    rwa [← band_fixVtxBand] at h
  power := by
    simp only [fixVtx, fixVtxPower, Fixed.value_bind, Fixed.value_pure, Fixed.value_assignIf]
    exact dropped_le _ _

/-! ## All of them -/

/-- every single value is in its range -/
structure InRange (caps : Capabilities) (s : Settings) : Prop where
  profiles : ∀ p ∈ s.pidProfiles, p.InRange
  syncDenom : 1 ≤ s.gyro.syncDenom ∧ s.gyro.syncDenom ≤ Timing.maxSyncDenom
  processDenom : 1 ≤ s.pidLoop.processDenom ∧ s.pidLoop.processDenom ≤ Timing.maxProcessDenom
  beeper : s.beeper.InRange
  vtx : .vtxTable ∈ caps → s.vtx.InRange s.vtxTable

theorem fixRanges_value (caps : Capabilities) (s : Settings) :
    (fixRanges caps s).value =
      { s with
        pidProfiles := (Fixed.slots fixProfileRanges s.pidProfiles).value
        gyro := { s.gyro with syncDenom := clamp 1 Timing.maxSyncDenom s.gyro.syncDenom }
        pidLoop := { processDenom := clamp 1 Timing.maxProcessDenom s.pidLoop.processDenom }
        beeper := (fixBeeper s.beeper).value
        vtx := if .vtxTable ∈ caps then (fixVtx s.vtxTable s.vtx).value else s.vtx } := by
  unfold fixRanges
  split_ifs <;> rfl

theorem fixRanges_eq_pure {caps : Capabilities} {s : Settings} (h : InRange caps s) : fixRanges caps s = pure s := by
  have hslots := Fixed.slots_eq_pure fun p hp => fixProfileRanges_eq_pure (h.profiles p hp)
  simp only [fixRanges, hslots, clamp_eq_self h.syncDenom.1 h.syncDenom.2,
    clamp_eq_self h.processDenom.1 h.processDenom.2, Fixed.assign_self, fixBeeper_eq_pure h.beeper, pure_bind]
  split_ifs with hc
  · rw [fixVtx_eq_pure (h.vtx hc), pure_bind]
  · rfl

theorem inRange_fixRanges (caps : Capabilities) (s : Settings) : InRange caps (fixRanges caps s).value := by
  rw [fixRanges_value]
  refine ⟨Fixed.forall_mem_slots fun p _ => inRange_fixProfileRanges p, clamp_mem (by decide) _,
    clamp_mem (by decide) _, inRange_fixBeeper s.beeper, fun hc => ?_⟩
  simp only [if_pos hc]
  exact inRange_fixVtx s.vtxTable s.vtx

end Repair
end FlightStore
