/-
What a rule establishes, and that no later rule undoes it.

`Rule.Holds` is the fact that a rule leaves behind. A rule has nothing to do where its fact holds (`apply_eq_pure`) and
establishes it (`holds_apply`). `holds_apply_of_before` is the heart of the repair pass: the fact of an earlier rule
survives each later one, although later rules write features, ports, denominators, profiles and modes again.
-/
import FlightStore.Proofs.Repair.Links
import FlightStore.Proofs.Repair.Motors
import FlightStore.Proofs.Repair.Peripherals

namespace FlightStore.Repair

variable {t : Target} {sensor : SensorModel} {s : Settings}

namespace Rule

/-- what a rule leaves behind -/
def Holds (t : Target) (sensor : SensorModel) (s : Settings) : Rule → Prop
  | serialPorts => s.serial.Valid
  | capabilities => Supported t s
  | rxExclusion => SingleRadio t s.features
  | filterLimits => FiltersBounded s
  | filterOrdering => FiltersOrdered s
  | ranges => InRange t.capabilities s
  | motorProtocol => ProtocolConsistent s
  | loopTiming => LoopTimed sensor s
  | peripherals => PeripheralsConsistent t.capabilities s
  | modeLinks => firstInvalidLink s.modes.items = none
  | profileIndices => s.system.Indexed

/-- a rule runs before another -/
def Before (q r : Rule) : Prop := list.idxOf q < list.idxOf r

instance (q r : Rule) : Decidable (q.Before r) := inferInstanceAs (Decidable (list.idxOf q < list.idxOf r))

/-- where its fact holds, a rule changes and reports nothing -/
theorem apply_eq_pure {r : Rule} (h : r.Holds t sensor s) : r.apply t sensor s = pure s := by
  cases r with
  | serialPorts => simp only [apply, fixPorts_eq_pure h, pure_bind]
  | capabilities => exact disableUnsupported_eq_pure h
  | rxExclusion => simp only [apply, selectRadio_eq_pure h, pure_bind]
  | filterLimits => exact clampFilters_eq_pure h
  | filterOrdering => exact orderFilters_eq_pure h
  | ranges => exact fixRanges_eq_pure h
  | motorProtocol => exact fixProtocol_eq_pure h
  | loopTiming => exact fixLoop_eq_pure h
  | peripherals => exact fixPeripherals_eq_pure h
  | modeLinks => simp only [apply, fixModeLinks_eq_pure h, pure_bind]
  | profileIndices => simp only [apply, fixIndices_eq_pure h, pure_bind]

/-- what a rule asks of a target: one radio input can be chosen only if the target falls back to a radio input -/
def Suits (t : Target) (r : Rule) : Prop := r = rxExclusion → t.HasRadioDefault

theorem suits_of_ne {r : Rule} (hr : r ≠ rxExclusion) : r.Suits t := fun h => absurd h hr

/-- a rule establishes its fact -/
theorem holds_apply {r : Rule} (hr : r.Suits t) (sensor : SensorModel) (s : Settings) :
    r.Holds t sensor (r.apply t sensor s).value := by
  cases r with
  | serialPorts => exact valid_fixPorts s.serial
  | capabilities => exact supported_disableUnsupported t s
  | rxExclusion => exact singleRadio_selectRadio (hr rfl) s.features
  | filterLimits => exact bounded_clampFilters s
  | filterOrdering => exact ordered_orderFilters s
  | ranges => exact inRange_fixRanges t.capabilities s
  | motorProtocol => exact protocolConsistent_fixProtocol s
  | loopTiming => exact loopTimed_fixLoop sensor s
  | peripherals => exact peripheralsConsistent_fixPeripherals t.capabilities s
  | modeLinks => exact firstInvalidLink_dropInvalidLinks s.modes.items
  | profileIndices => exact indexed_fixIndices s.system

/-! ## Ports and features -/

/-- only the rule for peripherals writes ports after the first rule -/
theorem valid_apply {r : Rule} (hr : serialPorts.Before r) (h : s.serial.Valid) :
    (r.apply t sensor s).value.serial.Valid := by
  cases r with
  | serialPorts => exact absurd hr (by decide)
  | ranges => rwa [apply, fixRanges_value]
  | motorProtocol => rwa [apply, fixProtocol_value]
  | loopTiming => rwa [apply, fixLoop_value]
  | peripherals => exact valid_fixPeripherals t.capabilities h
  | _ => exact h

/-- after the radio input is chosen, features are only trimmed -/
theorem trims_apply {r : Rule} (hr : rxExclusion.Before r) : Trims s.features (r.apply t sensor s).value.features := by
  cases r with
  | serialPorts | capabilities | rxExclusion => exact absurd hr (by decide)
  | ranges =>
    rw [apply, fixRanges_value]
    exact Trims.refl _
  | motorProtocol => exact trims_fixProtocol s
  | loopTiming => exact trims_fixLoop sensor s
  | peripherals => exact trims_fixPeripherals t.capabilities s
  | _ => exact Trims.refl _

/-- no rule switches telemetry from the motors on -/
theorem telemetry_of_apply {r : Rule} (h : (r.apply t sensor s).value.motor.output.telemetry = true) :
    s.motor.output.telemetry = true := by
  cases r with
  | capabilities => exact Fixed.of_value_assignIf_false h
  | ranges => rwa [apply, fixRanges_value] at h
  | motorProtocol =>
    rw [apply, fixProtocol_value] at h
    exact telemetry_of_fixOutput _ _ h
  | loopTiming => rwa [apply, fixLoop_value] at h
  | peripherals => rwa [apply, fixPeripherals_frame] at h
  | _ => exact h

/-- no rule but the one for capabilities writes the recording settings -/
theorem blackbox_apply {r : Rule} (hr : r ≠ capabilities) : (r.apply t sensor s).value.blackbox = s.blackbox := by
  cases r with
  | capabilities => exact absurd rfl hr
  | ranges => rw [apply, fixRanges_value]
  | motorProtocol => rw [apply, fixProtocol_value]
  | loopTiming => rw [apply, fixLoop_value]
  | peripherals => rw [apply, fixPeripherals_frame]
  | _ => rfl

theorem supported_apply {r : Rule} (hr : capabilities.Before r) (h : Supported t s) :
    Supported t (r.apply t sensor s).value := by
  refine ⟨?_, ?_, fun ht => ?_⟩
  · by_cases hrx : r = rxExclusion
    · subst hrx
      exact selectRadio_supported h.features
    · have hlater : rxExclusion.Before r := by
        revert hr hrx
        cases r <;> decide
      exact FlagSet.not_meets_mono h.features (trims_apply hlater).subset
  · rw [blackbox_apply fun he => absurd (he ▸ hr) (by decide)]
    exact h.device
  · by_contra hon
    have hold := telemetry_of_apply (Bool.eq_true_of_not_eq_false hon)
    rw [h.telemetry ht] at hold
    cases hold

/-! ## Filters and ranges -/

/-- after the filters are in order, the gyro settings change only in the denominator of the loop -/
theorem gyro_apply {r : Rule} (hr : filterOrdering.Before r) {P : Gyro → Prop}
    (hsync : ∀ g d, P g → P { g with syncDenom := d }) (h : P s.gyro) : P (r.apply t sensor s).value.gyro := by
  cases r with
  | serialPorts | capabilities | rxExclusion | filterLimits | filterOrdering => exact absurd hr (by decide)
  | ranges =>
    rw [apply, fixRanges_value]
    exact hsync s.gyro _ h
  | motorProtocol => rwa [apply, fixProtocol_value]
  | loopTiming =>
    rw [apply, fixLoop_value]
    exact hsync s.gyro _ h
  | peripherals => rwa [apply, fixPeripherals_frame]
  | modeLinks | profileIndices => exact h

/-- after the filters are in order, a PID profile changes only in its single values and where it is not smoothed -/
theorem pidProfiles_apply {r : Rule} (hr : filterOrdering.Before r) {P : PidProfile → Prop}
    (hranges : ∀ p, P p → P (fixProfileRanges p).value) (hunsmoothed : ∀ rx p, P p → P (fixUnsmoothed rx p).value)
    (h : ∀ p ∈ s.pidProfiles, P p) : ∀ p ∈ (r.apply t sensor s).value.pidProfiles, P p := by
  cases r with
  | serialPorts | capabilities | rxExclusion | filterLimits | filterOrdering => exact absurd hr (by decide)
  | ranges =>
    rw [apply, fixRanges_value]
    exact Fixed.forall_mem_slots fun p hp => hranges p (h p hp)
  | motorProtocol => rwa [apply, fixProtocol_value]
  | loopTiming => rwa [apply, fixLoop_value]
  | peripherals => exact forall_fixPeripherals t.capabilities fun p hp => hunsmoothed s.receiver p (h p hp)
  | modeLinks | profileIndices => exact h

theorem bounded_apply {r : Rule} (hr : filterLimits.Before r) (h : FiltersBounded s) :
    FiltersBounded (r.apply t sensor s).value := by
  by_cases hordering : r = filterOrdering
  · subst hordering
    exact bounded_orderFilters h
  · have hlater : filterOrdering.Before r := by
      revert hr hordering
      cases r <;> decide
    refine ⟨gyro_apply hlater (fun g d hg => ?_) h.gyro,
      pidProfiles_apply hlater (fun p hp => ?_) (fun rx p hp => ?_) h.profiles⟩
    · exact ⟨hg.lowpass, hg.lowpass2, hg.notch1, hg.notchCutoff1, hg.notch2, hg.notchCutoff2⟩
    · exact ⟨hp.lowpass, hp.lowpass2, hp.notch, hp.notchCutoff⟩
    · exact ⟨hp.lowpass, hp.lowpass2, hp.notch, hp.notchCutoff⟩

theorem ordered_apply {r : Rule} (hr : filterOrdering.Before r) (h : FiltersOrdered s) :
    FiltersOrdered (r.apply t sensor s).value := by
  refine ⟨gyro_apply hr (fun g d hg => ?_) h.gyro,
    pidProfiles_apply hr (fun p hp => ?_) (fun rx p hp => ?_) h.profiles⟩
  · exact ⟨hg.notch1, hg.notch2, hg.dynamic⟩
  · exact ⟨hp.notch, hp.dynamic, hp.roll, hp.pitch, hp.yaw⟩
  -- only feed-forward and throttle boost change where a setpoint is not smoothed, the D gains stay
  · exact ⟨hp.notch, hp.dynamic, hp.roll, hp.pitch, hp.yaw⟩

theorem inRange_apply {r : Rule} (hr : ranges.Before r) (h : InRange t.capabilities s) :
    InRange t.capabilities (r.apply t sensor s).value := by
  have hordering : filterOrdering.Before ranges := by decide
  have hprofiles : ∀ p ∈ (r.apply t sensor s).value.pidProfiles, p.InRange := by
    refine pidProfiles_apply (Nat.lt_trans hordering hr) (fun p _ => ?_) (fun rx p hp => ?_) h.profiles
    · exact inRange_fixProfileRanges p
    · exact ⟨hp.outputLimit, hp.cellByte⟩
  cases r with
  | serialPorts | capabilities | rxExclusion | filterLimits | filterOrdering | ranges => exact absurd hr (by decide)
  | motorProtocol =>
    rw [apply, fixProtocol_value] at *
    exact ⟨hprofiles, h.syncDenom, h.processDenom, h.beeper, h.vtx⟩
  | loopTiming => exact inRange_fixLoop sensor h
  | peripherals =>
    rw [apply, fixPeripherals_frame] at *
    exact ⟨hprofiles, h.syncDenom, h.processDenom, h.beeper, h.vtx⟩
  | modeLinks | profileIndices => exact ⟨hprofiles, h.syncDenom, h.processDenom, h.beeper, h.vtx⟩

/-! ## Motors, loops and peripherals -/

theorem protocolConsistent_apply {r : Rule} (hr : motorProtocol.Before r) (h : ProtocolConsistent s) :
    ProtocolConsistent (r.apply t sensor s).value := by
  -- reversing stays off because features are only trimmed
  have hreversing : s.motor.output.protocol = .brushed → .threeD ∉ (r.apply t sensor s).value.features := by
    intro hbrushed
    have hradio : rxExclusion.Before motorProtocol := by decide
    have hlater : rxExclusion.Before r := Nat.lt_trans hradio hr
    exact FlagSet.not_mem_mono (h.reversing hbrushed) (trims_apply hlater).subset
  cases r with
  | serialPorts | capabilities | rxExclusion | filterLimits | filterOrdering | ranges | motorProtocol =>
    exact absurd hr (by decide)
  | loopTiming =>
    rw [apply, fixLoop_value] at *
    exact ⟨hreversing, h.minCommand, fun hp => UInt16.le_trans (limitPulseRate_le _) (h.pulseRate hp), h.synced,
      h.bitbang, h.telemetry⟩
  | peripherals =>
    rw [apply, fixPeripherals_frame] at *
    exact ⟨hreversing, h.minCommand, h.pulseRate, h.synced, h.bitbang, h.telemetry⟩
  | modeLinks | profileIndices =>
    exact ⟨hreversing, h.minCommand, h.pulseRate, h.synced, h.bitbang, h.telemetry⟩

theorem loopTimed_apply {r : Rule} (hr : loopTiming.Before r) (h : LoopTimed sensor s) :
    LoopTimed sensor (r.apply t sensor s).value := by
  cases r with
  | peripherals =>
    have htrims := trims_fixPeripherals t.capabilities s
    rw [apply, fixPeripherals_frame]
    refine ⟨h.syncDenom, h.processDenom, h.pulseRate, fun hslow => ?_⟩
    exact FlagSet.not_mem_mono (h.dynamicFilter hslow) htrims.subset
  | modeLinks | profileIndices => exact ⟨h.syncDenom, h.processDenom, h.pulseRate, h.dynamicFilter⟩
  | _ => exact absurd hr (by decide)

theorem peripheralsConsistent_apply {r : Rule} (hr : peripherals.Before r)
    (h : PeripheralsConsistent t.capabilities s) :
    PeripheralsConsistent t.capabilities (r.apply t sensor s).value := by
  obtain ⟨⟨hmsp, hgps, htelemetry, hesc⟩, ⟨hprocedure, hmode⟩, hrssi, hprofiles⟩ := h
  cases r with
  | modeLinks =>
    refine ⟨⟨hmsp, hgps, htelemetry, hesc⟩, ⟨hprocedure, fun ha hpresent => ?_⟩, hrssi, hprofiles⟩
    exact hmode ha (hpresent.mono (fixModeLinks_subset s.modes))
  | profileIndices => exact ⟨⟨hmsp, hgps, htelemetry, hesc⟩, ⟨hprocedure, hmode⟩, hrssi, hprofiles⟩
  | _ => exact absurd hr (by decide)

/-! ## All facts -/

/-- **Nothing is undone.** What a rule established survives every later rule. -/
theorem holds_apply_of_before {q r : Rule} (hqr : q.Before r) (h : q.Holds t sensor s) :
    q.Holds t sensor (r.apply t sensor s).value := by
  cases q with
  | serialPorts => exact valid_apply hqr h
  | capabilities => exact supported_apply hqr h
  | rxExclusion => exact SingleRadio.trims h (trims_apply hqr)
  | filterLimits => exact bounded_apply hqr h
  | filterOrdering => exact ordered_apply hqr h
  | ranges => exact inRange_apply hqr h
  | motorProtocol => exact protocolConsistent_apply hqr h
  | loopTiming => exact loopTimed_apply hqr h
  | peripherals => exact peripheralsConsistent_apply hqr h
  | modeLinks =>
    cases r with
    | profileIndices => exact h
    | _ => exact absurd hqr (by decide)
  | profileIndices =>
    have hlast : ¬ profileIndices.Before r := by cases r <;> decide
    exact absurd hqr hlast

end Rule
end FlightStore.Repair
