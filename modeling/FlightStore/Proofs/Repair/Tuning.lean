/-
Filters, PID profiles and video transmitter after a pass, from the values before it.

Two rules write the filters one after the other, and the second one reads what the first has left. Which rules touch a
PID profile is written down once (`Rule.profile`); as the smoothing of the receiver never changes, a pass does to each
slot what these rules do to it in turn (`pidProfiles_repair`). The gyro filters have settled once they are in order, and
one rule alone writes the video transmitter, so both are what these rules make of the values from before the pass
(`tuned_gyro_repair`, `vtx_repair`).

Results:
- `repair_tuned`: for all settings, every target and every sensor, each filter frequency, reduced D gain, share of the
  motor output, cell selector and place in the table of the video transmitter after a pass, slot by slot.
-/
import FlightStore.Proofs.Repair.Stages

namespace FlightStore

namespace Repair

/-- what a pass makes of a notch: its frequencies are limited, and without a cutoff below its centre it is off -/
structure NotchTuned (centre cutoff centre' cutoff' : UInt16) : Prop where
  cutoff : cutoff' = if cutoff ≤ 4000 then cutoff else 0
  centre : centre' = if cutoff' < min centre 4000 then min centre 4000 else 0

/-- what a pass makes of a dynamic lowpass: with its bounds out of order it is off -/
structure DynamicTuned (lo hi lo' hi' : UInt16) : Prop where
  upper : hi' = hi
  lower : lo' = if lo ≤ hi then lo else 0

/-- what a pass makes of a reduced D gain: if it is not below the D gain it is off -/
structure DMinTuned (dMin d dMin' d' : UInt8) : Prop where
  gain : d' = d
  reduced : dMin' = if dMin < d then dMin else 0

end Repair

/-- what a pass makes of the gyro filters -/
structure Gyro.Tuned (g g' : Gyro) : Prop where
  lowpass : g'.lowpass = min g.lowpass 4000
  lowpass2 : g'.lowpass2 = min g.lowpass2 4000
  notch1 : Repair.NotchTuned g.notch1 g.notchCutoff1 g'.notch1 g'.notchCutoff1
  notch2 : Repair.NotchTuned g.notch2 g.notchCutoff2 g'.notch2 g'.notchCutoff2
  dynamic : Repair.DynamicTuned g.dynamicMin g.dynamicMax g'.dynamicMin g'.dynamicMax

/-- what a pass makes of a PID profile -/
structure PidProfile.Tuned (p p' : PidProfile) : Prop where
  lowpass : p'.lowpass = min p.lowpass 4000
  lowpass2 : p'.lowpass2 = min p.lowpass2 4000
  notch : Repair.NotchTuned p.notch p.notchCutoff p'.notch p'.notchCutoff
  dynamic : Repair.DynamicTuned p.dynamicMin p.dynamicMax p'.dynamicMin p'.dynamicMax
  roll : Repair.DMinTuned p.dMin.roll p.gains.roll.d p'.dMin.roll p'.gains.roll.d
  pitch : Repair.DMinTuned p.dMin.pitch p.gains.pitch.d p'.dMin.pitch p'.gains.pitch.d
  yaw : Repair.DMinTuned p.dMin.yaw p.gains.yaw.d p'.dMin.yaw p'.gains.yaw.d
  outputLimit : p'.outputLimit = if 1 ≤ p.outputLimit ∧ p.outputLimit ≤ 100 then p.outputLimit else 100
  cellByte : p'.cellByte = if -1 ≤ p.cellByte ∧ p.cellByte ≤ 8 then p.cellByte else 0

/-- what a pass makes of the video transmitter on a board with a table -/
structure Vtx.Tuned (table : VtxTable) (v v' : Vtx) : Prop where
  band : v'.band = if v.band ≤ table.bands then v.band else 0
  channel : v'.channel = if v.channel ≤ table.channels then v.channel else 0
  power : v'.power = if v.power ≤ table.powerLevels then v.power else 0
  /-- a frequency goes with the band, or with the channel in a band -/
  frequency : v'.frequency =
    if table.bands < v.band ∨ (table.channels < v.channel ∧ v.band ≠ 0) then 0 else v.frequency
  pitModeFrequency : v'.pitModeFrequency = v.pitModeFrequency
  lowPowerDisarm : v'.lowPowerDisarm = v.lowPowerDisarm

/-- a byte has no meaning exactly outside of -1 to 8 -/
theorem CellSelector.ofByte?_eq_none_iff {b : Int8} : CellSelector.ofByte? b = none ↔ ¬ (-1 ≤ b ∧ b ≤ 8) := by
  unfold CellSelector.ofByte? changeByte stayByte
  simp only [Int8.le_iff_toInt_le, ← Int8.toInt_inj]
  split_ifs with hchange hstay hcells <;> simp_all <;> omega

namespace Repair

variable {t : Target} {sensor : SensorModel} {s : Settings}

/-! ## Single values -/

/-- a value is replaced except where something holds -/
theorem value_assignIf_not {α : Type} [DecidableEq α] {p q : Prop} [Decidable p] [Decidable q] (h : p ↔ ¬ q)
    (old new : α) : (Fixed.assignIf p old new).value = if q then old else new := by
  rw [Fixed.value_assignIf, if_congr h rfl rfl, ite_not]

theorem value_limit (reset f : UInt16) : (limit reset f).value = if f ≤ 4000 then f else reset :=
  value_assignIf_not UInt16.not_le.symm f reset

theorem value_limit_filterMax (f : UInt16) : (limit filterMax f).value = min f 4000 := value_limit filterMax f

/-- the order of a notch is decided on its limited frequencies -/
theorem notchTuned (centre cutoff : UInt16) :
    NotchTuned centre cutoff (orderNotch (limit filterMax centre).value (limit 0 cutoff).value).value
      (limit 0 cutoff).value where
  cutoff := value_limit 0 cutoff
  centre := by
    rw [value_limit_filterMax]
    exact value_assignIf_not UInt16.not_lt.symm _ _

theorem dynamicTuned (lo hi : UInt16) : DynamicTuned lo hi (orderDynamic lo hi).value hi where
  upper := rfl
  lower := value_assignIf_not UInt16.not_le.symm lo 0

theorem dMinTuned (dMin d : UInt8) : DMinTuned dMin d (orderDMin dMin d).value d where
  gain := rfl
  reduced := value_assignIf_not UInt8.not_lt.symm dMin 0

/-! ## Gyro -/

theorem tuned_orderGyro (g : Gyro) : g.Tuned (orderGyro (clampGyro g).value).value where
  lowpass := value_limit_filterMax g.lowpass
  lowpass2 := value_limit_filterMax g.lowpass2
  notch1 := notchTuned g.notch1 g.notchCutoff1
  notch2 := notchTuned g.notch2 g.notchCutoff2
  dynamic := dynamicTuned g.dynamicMin g.dynamicMax

/-- no rule in front of the one for limits writes the gyro group -/
theorem found_filterLimits (t : Target) (sensor : SensorModel) (s : Settings) :
    (found t sensor s .filterLimits).gyro = s.gyro := by
  refine found_eq (f := Settings.gyro) fun q hq s' => ?_
  cases q with
  | serialPorts | capabilities | rxExclusion => rfl
  | _ => exact absurd hq (by decide)

/-- behind the order of the filters, the gyro group changes in the denominator of the loop alone -/
theorem tuned_gyro_repair (t : Target) (sensor : SensorModel) (s : Settings) :
    s.gyro.Tuned (repair t sensor s).settings.gyro := by
  have hfound : (found t sensor s .filterOrdering).gyro = (clampGyro s.gyro).value := by
    show (clampGyro (found t sensor s .filterLimits).gyro).value = _
    rw [found_filterLimits]
  refine repair_keeps (P := fun s' => s.gyro.Tuned s'.gyro) .filterOrdering
    (fun q hq s' h => Rule.gyro_apply hq (fun g d hg => ?_) h) ?_
  · exact ⟨hg.lowpass, hg.lowpass2, hg.notch1, hg.notch2, hg.dynamic⟩
  · show s.gyro.Tuned (orderGyro (found t sensor s .filterOrdering).gyro).value
    rw [hfound]
    exact tuned_orderGyro s.gyro

/-! ## PID profiles -/

/-- what a rule makes of a PID profile, for the smoothing of a receiver -/
def Rule.profile (rx : Receiver) (p : PidProfile) : Rule → PidProfile
  | filterLimits => (clampProfile p).value
  | filterOrdering => (orderProfile p).value
  | ranges => (fixProfileRanges p).value
  | peripherals => (fixUnsmoothed rx p).value
  | _ => p

namespace Rule

/-- a rule does the same to each PID profile, slot by slot -/
theorem pidProfiles_eq (r : Rule) (t : Target) (sensor : SensorModel) (s : Settings) :
    (r.apply t sensor s).value.pidProfiles = s.pidProfiles.map fun p => r.profile s.receiver p := by
  have hsame : s.pidProfiles = s.pidProfiles.map fun p => p := (Vector.map_id' s.pidProfiles).symm
  cases r with
  | filterLimits | filterOrdering => rfl
  | ranges =>
    rw [apply, fixRanges_value]
    rfl
  | motorProtocol =>
    rw [apply, fixProtocol_value]
    exact hsame
  | loopTiming =>
    rw [apply, fixLoop_value]
    exact hsame
  | peripherals =>
    rw [apply, fixPeripherals_value]
    rfl
  | serialPorts | capabilities | rxExclusion | modeLinks | profileIndices => exact hsame

end Rule

/-- receivers that smooth the same setpoints -/
def SmoothAlike (rx rx' : Receiver) : Prop :=
  rx'.smoothing = rx.smoothing ∧ rx'.smoothedChannels = rx.smoothedChannels

namespace Rule

/-- no rule changes what a receiver smooths -/
theorem smoothAlike_apply (r : Rule) (t : Target) (sensor : SensorModel) (s : Settings) :
    SmoothAlike s.receiver (r.apply t sensor s).value.receiver := by
  cases r with
  | ranges =>
    rw [apply, fixRanges_value]
    exact ⟨rfl, rfl⟩
  | motorProtocol =>
    rw [apply, fixProtocol_value]
    exact ⟨rfl, rfl⟩
  | loopTiming =>
    rw [apply, fixLoop_value]
    exact ⟨rfl, rfl⟩
  | peripherals =>
    rw [apply, fixPeripherals_value]
    exact fixRssi_smoothing _ s.receiver
  | _ => exact ⟨rfl, rfl⟩

/-- a rule looks at what the receiver smooths, and at nothing else of it -/
theorem profile_congr {rx rx' : Receiver} (h : SmoothAlike rx rx') : profile rx' = profile rx := by
  obtain ⟨hsmoothing, hchannels⟩ := h
  cases rx
  cases rx'
  cases hsmoothing
  cases hchannels
  rfl

end Rule

/-- rules one after the other do to each PID profile what they do to it one by one -/
theorem pidProfiles_run (rs : List Rule) (p : Pass) :
    (rs.foldl (Pass.step t sensor) p).settings.pidProfiles =
      p.settings.pidProfiles.map (rs.foldl (Rule.profile p.settings.receiver)) := by
  induction rs generalizing p with
  | nil => exact (Vector.map_id' p.settings.pidProfiles).symm
  | cons r rs ih =>
    have hstep : (Pass.step t sensor p r).settings.pidProfiles =
        p.settings.pidProfiles.map fun q => Rule.profile p.settings.receiver q r :=
      r.pidProfiles_eq t sensor p.settings
    have halike : SmoothAlike p.settings.receiver (Pass.step t sensor p r).settings.receiver :=
      r.smoothAlike_apply t sensor p.settings
    rw [List.foldl_cons, ih, hstep, Rule.profile_congr halike, Vector.map_map]
    rfl

/-- **A pass repairs each PID profile by itself.** -/
theorem pidProfiles_repair (t : Target) (sensor : SensorModel) (s : Settings) :
    (repair t sensor s).settings.pidProfiles = s.pidProfiles.map (Rule.list.foldl (Rule.profile s.receiver)) :=
  pidProfiles_run Rule.list ⟨s, .empty⟩

theorem outputLimit_invalid_iff {limit : UInt8} : limit = 0 ∨ 100 < limit ↔ ¬ (1 ≤ limit ∧ limit ≤ 100) := by
  rw [not_and_or, UInt8.not_le, UInt8.not_le, UInt8.lt_one_iff]

theorem tuned_profile (rx : Receiver) (p : PidProfile) : p.Tuned (Rule.list.foldl (Rule.profile rx) p) where
  lowpass := value_limit_filterMax p.lowpass
  lowpass2 := value_limit_filterMax p.lowpass2
  notch := notchTuned p.notch p.notchCutoff
  dynamic := dynamicTuned p.dynamicMin p.dynamicMax
  roll := dMinTuned p.dMin.roll p.gains.roll.d
  pitch := dMinTuned p.dMin.pitch p.gains.pitch.d
  yaw := dMinTuned p.dMin.yaw p.gains.yaw.d
  outputLimit := value_assignIf_not outputLimit_invalid_iff p.outputLimit 100
  cellByte := value_assignIf_not CellSelector.ofByte?_eq_none_iff p.cellByte 0

/-! ## Video transmitter -/

theorem fixVtxChannel_value (table : VtxTable) (v : Vtx) :
    (fixVtxChannel table v).value =
      { v with
        channel := if table.channels < v.channel then 0 else v.channel
        frequency := if table.channels < v.channel ∧ 0 < v.band then 0 else v.frequency } := by
  unfold fixVtxChannel
  by_cases hpast : table.channels < v.channel <;> simp [hpast]

theorem fixVtxBand_value (table : VtxTable) (v : Vtx) :
    (fixVtxBand table v).value =
      { v with
        band := if table.bands < v.band then 0 else v.band
        frequency := if table.bands < v.band then 0 else v.frequency } := by
  unfold fixVtxBand
  by_cases hpast : table.bands < v.band <;> simp [hpast]

/-- a number past the end of a table is dropped, any other one kept -/
theorem dropped_eq (last v : UInt8) : (if last < v then 0 else v) = if v ≤ last then v else 0 := by
  rw [if_congr UInt8.not_le.symm rfl rfl, ite_not]

/-- the channel is looked at first, while the band is still the one that was chosen -/
theorem fixVtx_value (table : VtxTable) (v : Vtx) :
    (fixVtx table v).value =
      { v with
        band := if table.bands < v.band then 0 else v.band
        channel := if table.channels < v.channel then 0 else v.channel
        power := if table.powerLevels < v.power then 0 else v.power
        frequency :=
          if table.bands < v.band then 0 else if table.channels < v.channel ∧ 0 < v.band then 0 else v.frequency } := by
  simp only [fixVtx, fixVtxPower, Fixed.value_bind, Fixed.value_pure, Fixed.value_assignIf, fixVtxBand_value,
    fixVtxChannel_value]

theorem tuned_fixVtx (table : VtxTable) (v : Vtx) : v.Tuned table (fixVtx table v).value := by
  rw [fixVtx_value]
  refine ⟨dropped_eq table.bands v.band, dropped_eq table.channels v.channel, dropped_eq table.powerLevels v.power, ?_,
    rfl, rfl⟩
  simp only [ite_or, UInt8.pos_iff_ne_zero]

namespace Rule

theorem vtxTable_apply (r : Rule) (t : Target) (sensor : SensorModel) (s : Settings) :
    (r.apply t sensor s).value.vtxTable = s.vtxTable := by
  cases r with
  | ranges => rw [apply, fixRanges_value]
  | motorProtocol => rw [apply, fixProtocol_value]
  | loopTiming => rw [apply, fixLoop_value]
  | peripherals => rw [apply, fixPeripherals_frame]
  | _ => rfl

/-- no rule but the one for ranges writes the video transmitter -/
theorem vtx_apply {r : Rule} (hr : r ≠ ranges) (s : Settings) : (r.apply t sensor s).value.vtx = s.vtx := by
  cases r with
  | ranges => exact absurd rfl hr
  | motorProtocol => rw [apply, fixProtocol_value]
  | loopTiming => rw [apply, fixLoop_value]
  | peripherals => rw [apply, fixPeripherals_frame]
  | _ => rfl

end Rule

/-- a pass does to the video transmitter what the rule for ranges does to it -/
theorem vtx_repair (t : Target) (sensor : SensorModel) (s : Settings) :
    (repair t sensor s).settings.vtx =
      if .vtxTable ∈ t.capabilities then (fixVtx s.vtxTable s.vtx).value else s.vtx := by
  have hne : ∀ {q : Rule}, q.Before .ranges ∨ Rule.ranges.Before q → q ≠ .ranges := by
    rintro q hq rfl
    exact absurd hq (by decide)
  have hvtx : (found t sensor s .ranges).vtx = s.vtx :=
    found_eq (f := Settings.vtx) fun q hq s' => Rule.vtx_apply (hne (Or.inl hq)) s'
  have htable : (found t sensor s .ranges).vtxTable = s.vtxTable :=
    found_eq (f := Settings.vtxTable) fun q _ s' => q.vtxTable_apply t sensor s'
  rw [repair_eq (f := Settings.vtx) .ranges fun q hq s' => Rule.vtx_apply (hne (Or.inr hq)) s', Rule.apply,
    fixRanges_value, hvtx, htable]

theorem vtxTable_repair (t : Target) (sensor : SensorModel) (s : Settings) :
    (repair t sensor s).settings.vtxTable = s.vtxTable :=
  repair_eq_of_forall (f := Settings.vtxTable) fun r s' => r.vtxTable_apply t sensor s'

/-! ## All of them -/

/-- what a pass makes of the filters, the PID profiles and the video transmitter of settings -/
structure Tuned (caps : Capabilities) (s s' : Settings) : Prop where
  gyro : s.gyro.Tuned s'.gyro
  /-- each slot depends on what was in that slot -/
  profiles : ∀ (i : Nat) (h : i < pidProfileCount), s.pidProfiles[i].Tuned s'.pidProfiles[i]
  vtx : .vtxTable ∈ caps → s.vtx.Tuned s.vtxTable s'.vtx
  vtxTable : s'.vtxTable = s.vtxTable
  /-- a board without a table has no say in the video transmitter -/
  vtxKept : .vtxTable ∉ caps → s'.vtx = s.vtx

/-- **Filters and ranges are repaired exactly.** For all settings, every target and every sensor, the values of filters,
PID profiles and video transmitter after a pass are determined, field by field and slot by slot, by those before it. -/
theorem repair_tuned (t : Target) (sensor : SensorModel) (s : Settings) :
    Tuned t.capabilities s (repair t sensor s).settings where
  gyro := tuned_gyro_repair t sensor s
  profiles i h := by
    simp only [pidProfiles_repair, Vector.getElem_map]
    exact tuned_profile s.receiver s.pidProfiles[i]
  vtx hcap := by
    rw [vtx_repair, if_pos hcap]
    exact tuned_fixVtx s.vtxTable s.vtx
  vtxTable := vtxTable_repair t sensor s
  vtxKept hcap := by rw [vtx_repair, if_neg hcap]

end Repair
end FlightStore
