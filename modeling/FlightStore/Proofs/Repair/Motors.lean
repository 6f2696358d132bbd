/-
Motor output and loop timing after repair.

`ProtocolConsistent` says which options of a motor protocol go together, `LoopTimed` that the denominators of the loops
are those that a protocol and a sensor allow. Loop timing only lowers the pulse rate and only takes the dynamic filter
away, so what the protocol asks for lasts.
-/
import FlightStore.Proofs.Loop.Timing
import FlightStore.Proofs.Repair.Features
import FlightStore.Proofs.Repair.Ranges

namespace FlightStore

theorem maxOfLe_eq_left {α : Type} [LE α] [DecidableLE α] [Std.IsLinearOrder α] {a b : α} (h : b ≤ a) :
    maxOfLe.max a b = a := by
  show (if a ≤ b then b else a) = a
  split_ifs with hab
  · exact Std.le_antisymm h hab
  · rfl

theorem maxOfLe_eq_right {α : Type} [LE α] [DecidableLE α] {a b : α} (h : a ≤ b) : maxOfLe.max a b = b := if_pos h

theorem le_maxOfLe_left {α : Type} [LE α] [DecidableLE α] [Std.IsLinearOrder α] (a b : α) : a ≤ maxOfLe.max a b := by
  show a ≤ if a ≤ b then b else a
  split_ifs with hab
  · exact hab
  · exact Std.le_refl a

theorem le_maxOfLe_right {α : Type} [LE α] [DecidableLE α] [Std.IsLinearOrder α] (a b : α) : b ≤ maxOfLe.max a b := by
  show b ≤ if a ≤ b then b else a
  split_ifs with hab
  · exact Std.le_refl b
  · exact Std.le_of_not_ge hab

theorem maxOfLe_le {α : Type} [LE α] [DecidableLE α] {a b c : α} (ha : a ≤ c) (hb : b ≤ c) : maxOfLe.max a b ≤ c := by
  show (if a ≤ b then b else a) ≤ c
  split_ifs
  · exact hb
  · exact ha

namespace Repair

/-! ## The protocol -/

/-- the options of the motor protocol go together -/
structure ProtocolConsistent (s : Settings) : Prop where
  reversing : s.motor.output.protocol = .brushed → .threeD ∉ s.features
  minCommand : s.motor.output.protocol = .brushed → brushedMinCommand ≤ s.motor.minCommand
  pulseRate : s.motor.output.protocol = .standard → s.motor.output.pulseRate ≤ brushlessPulseRate
  synced : s.motor.output.protocol.isDshot → s.motor.output.unsynced = false
  bitbang : s.motor.output.protocol = .proshot1000 → s.motor.output.telemetry → s.motor.output.bitbang ≠ .on
  telemetry : TelemetryUnusable s.system.schedulerTuning s.motor.output → s.motor.output.telemetry = false

theorem fixBrushed_value (s : Settings) :
    (fixBrushed s).value =
      { s with
        features := if s.motor.output.protocol = .brushed then s.features \ .only .threeD else s.features
        motor := { s.motor with
          minCommand :=
            if s.motor.output.protocol = .brushed then max s.motor.minCommand brushedMinCommand
            else s.motor.minCommand } } := by
  unfold fixBrushed
  split_ifs <;> rfl

theorem fixProtocol_eq_pure {s : Settings} (h : ProtocolConsistent s) : fixProtocol s = pure s := by
  have hbrushed : fixBrushed s = pure s := by
    unfold fixBrushed
    split_ifs with hb
    · have hthreeD := disable_eq_pure fun hm => h.reversing hb (FlagSet.meets_only.1 hm)
      have hmax : max s.motor.minCommand brushedMinCommand = s.motor.minCommand := maxOfLe_eq_left (h.minCommand hb)
      simp only [hthreeD, hmax, Fixed.assign_self, pure_bind]
    · rfl
  have hrate : ¬ (s.motor.output.protocol = .standard ∧ brushlessPulseRate < s.motor.output.pulseRate) := by
    rintro ⟨hstandard, hlt⟩
    exact UInt16.not_lt.2 (h.pulseRate hstandard) hlt
  have hbitbang : ¬ (s.motor.output.protocol = .proshot1000 ∧ s.motor.output.telemetry ∧
      s.motor.output.bitbang = .on) := by
    rintro ⟨hproshot, htelemetry, hon⟩
    exact h.bitbang hproshot htelemetry hon
  simp only [fixProtocol, hbrushed, fixOutput, Fixed.assignIf_neg hrate, Fixed.assignIf_eq_pure h.synced,
    Fixed.assignIf_neg hbitbang, Fixed.assignIf_eq_pure h.telemetry, pure_bind]

/-! ### What the protocol rule leaves behind -/

variable (tuning : SchedulerTuning) (o : MotorOutput)

theorem pulseRate_fixOutput (h : o.protocol = .standard) :
    (fixOutput tuning o).value.pulseRate ≤ brushlessPulseRate := by
  simp only [fixOutput, Fixed.value_bind, Fixed.value_pure, Fixed.value_assignIf, h, true_and]
  split_ifs with hlt
  · exact UInt16.le_refl _
  · exact UInt16.not_lt.1 hlt

theorem unsynced_fixOutput (h : o.protocol.isDshot) : (fixOutput tuning o).value.unsynced = false := by
  simp only [fixOutput, Fixed.value_bind, Fixed.value_pure, Fixed.value_assignIf, if_pos h]

/-- telemetry is only ever switched off -/
theorem telemetry_of_fixOutput (h : (fixOutput tuning o).value.telemetry = true) : o.telemetry = true :=
  Fixed.of_value_assignIf_false h

theorem telemetry_fixOutput (h : TelemetryUnusable tuning (fixOutput tuning o).value) :
    (fixOutput tuning o).value.telemetry = false := by
  simp only [fixOutput, Fixed.value_bind, Fixed.value_pure, Fixed.value_assignIf] at h ⊢
  exact if_pos h

theorem bitbang_fixOutput (hp : o.protocol = .proshot1000) (ht : (fixOutput tuning o).value.telemetry) :
    (fixOutput tuning o).value.bitbang ≠ .on := by
  have ho := telemetry_of_fixOutput tuning o ht
  simp only [fixOutput, Fixed.value_bind, Fixed.value_pure, Fixed.value_assignIf, hp, ho, true_and]
  split_ifs with hon
  · decide
  · exact hon

theorem fixProtocol_value (s : Settings) :
    (fixProtocol s).value =
      { s with
        features := if s.motor.output.protocol = .brushed then s.features \ .only .threeD else s.features
        motor := { s.motor with
          output := (fixOutput s.system.schedulerTuning s.motor.output).value
          minCommand :=
            if s.motor.output.protocol = .brushed then max s.motor.minCommand brushedMinCommand
            else s.motor.minCommand } } := by
  have h : (fixProtocol s).value =
      { (fixBrushed s).value with
        motor := { (fixBrushed s).value.motor with
          output := (fixOutput (fixBrushed s).value.system.schedulerTuning (fixBrushed s).value.motor.output).value } } :=
    rfl
  rw [h, fixBrushed_value]

theorem protocolConsistent_fixProtocol (s : Settings) : ProtocolConsistent (fixProtocol s).value := by
  rw [fixProtocol_value]
  refine ⟨fun hb => ?_, fun hb => ?_, pulseRate_fixOutput _ s.motor.output, unsynced_fixOutput _ s.motor.output,
    bitbang_fixOutput _ s.motor.output, telemetry_fixOutput _ s.motor.output⟩
  · have hb : s.motor.output.protocol = .brushed := hb
    simp [hb]
  · have hb : s.motor.output.protocol = .brushed := hb
    simp only [if_pos hb]
    exact le_maxOfLe_right _ _

/-- the protocol rule takes away at most reversing -/
theorem trims_fixProtocol (s : Settings) : Trims s.features (fixProtocol s).value.features := by
  rw [fixProtocol_value]
  dsimp only
  split_ifs
  · exact trims_sdiff_only (by decide) _
  · exact Trims.refl _

/-! ## Loop timing -/

/-- the denominators of the loops and the pulse rate are those that protocol and sensor allow -/
structure LoopTimed (sensor : SensorModel) (s : Settings) : Prop where
  syncDenom : (startDenoms s).1 = s.gyro.syncDenom
  processDenom : slowEnough s.motor.output (Timing.samplingInterval sensor s.gyro.hardwareLowpass) (startDenoms s).1
    (startDenoms s).2 = s.pidLoop.processDenom
  pulseRate : s.motor.output.unsynced → s.motor.output.protocol.limitsUnsyncedRate →
    s.motor.output.pulseRate ≤ Timing.maxUpdateRate (Timing.updateRestriction s.motor.output.protocol)
  dynamicFilter : Timing.dynamicFilterLimit <
    Timing.samplingInterval sensor s.gyro.hardwareLowpass * s.gyro.syncDenom.toNat → .dynamicFilter ∉ s.features

theorem fixLoop_eq_pure {sensor : SensorModel} {s : Settings} (h : LoopTimed sensor s) : fixLoop sensor s = pure s := by
  have hrate : limitPulseRate s.motor.output = pure s.motor.output.pulseRate := by
    refine Fixed.assignIf_neg ?_
    rintro ⟨hunsynced, hlimited, hlt⟩
    exact UInt16.not_lt.2 (h.pulseRate hunsynced hlimited) hlt
  have hprocess := h.processDenom
  rw [h.syncDenom] at hprocess
  simp only [fixLoop, hrate, h.syncDenom, hprocess, Fixed.assign_self, pure_bind]
  split_ifs with hslow
  · rw [disable_eq_pure fun hm => h.dynamicFilter hslow (FlagSet.meets_only.1 hm), pure_bind]
  · rfl

theorem fixLoop_value (sensor : SensorModel) (s : Settings) :
    (fixLoop sensor s).value =
      { s with
        motor := { s.motor with output := { s.motor.output with pulseRate := (limitPulseRate s.motor.output).value } }
        gyro := { s.gyro with syncDenom := (startDenoms s).1 }
        pidLoop := ⟨slowEnough s.motor.output (Timing.samplingInterval sensor s.gyro.hardwareLowpass)
          (startDenoms s).1 (startDenoms s).2⟩
        features :=
          if Timing.dynamicFilterLimit <
              Timing.samplingInterval sensor s.gyro.hardwareLowpass * (startDenoms s).1.toNat then
            s.features \ .only .dynamicFilter
          else s.features } := by
  simp only [fixLoop]
  split_ifs <;> rfl

/-- a denominator that is slow enough needs no raising -/
theorem slowEnough_idem (sampling : Nat) (sync process : UInt8) :
    slowEnough o sampling sync (slowEnough o sampling sync process) = slowEnough o sampling sync process := by
  unfold slowEnough
  dsimp only
  split_ifs
  · exact maxOfLe_eq_left (le_maxOfLe_right _ _)
  · rfl
  · rfl

/-- raising a denominator of the control loop keeps it within its range -/
theorem slowEnough_mem (sampling : Nat) (sync : UInt8) {process : UInt8} (hlo : 1 ≤ process)
    (hhi : process ≤ Timing.maxProcessDenom) :
    1 ≤ slowEnough o sampling sync process ∧ slowEnough o sampling sync process ≤ Timing.maxProcessDenom := by
  unfold slowEnough
  dsimp only
  split_ifs
  · exact ⟨UInt8.le_trans hlo (le_maxOfLe_left _ _), maxOfLe_le hhi (Timing.minProcessDenom_mem _ _ _).2⟩
  · exact ⟨hlo, hhi⟩

theorem limitPulseRate_le : (limitPulseRate o).value ≤ o.pulseRate := by
  rw [limitPulseRate, Fixed.value_assignIf]
  split_ifs with h
  · exact UInt16.le_of_lt h.2.2
  · exact UInt16.le_refl _

theorem loopTimed_fixLoop (sensor : SensorModel) (s : Settings) : LoopTimed sensor (fixLoop sensor s).value := by
  rw [fixLoop_value]
  refine ⟨?_, ?_, fun hu hl => ?_, fun hslow => ?_⟩
  · cases hw : s.gyro.hardwareLowpass <;> simp [startDenoms, hw]
  · cases hw : s.gyro.hardwareLowpass
    · simp only [startDenoms, hw]
      exact slowEnough_idem s.motor.output _ _ _
    · simp only [startDenoms, hw]
      rfl
  · simp only [limitPulseRate, Fixed.value_assignIf]
    split_ifs with h
    · exact UInt16.le_refl _
    · exact UInt16.not_lt.1 fun hlt => h ⟨hu, hl, hlt⟩
  · have hslow : Timing.dynamicFilterLimit <
        Timing.samplingInterval sensor s.gyro.hardwareLowpass * (startDenoms s).1.toNat := hslow
    simp [hslow]

/-- loop timing keeps both denominators within their ranges -/
theorem inRange_fixLoop {caps : Capabilities} (sensor : SensorModel) {s : Settings} (h : InRange caps s) :
    InRange caps (fixLoop sensor s).value := by
  have hstart : (1 ≤ (startDenoms s).1 ∧ (startDenoms s).1 ≤ Timing.maxSyncDenom) ∧
      (1 ≤ (startDenoms s).2 ∧ (startDenoms s).2 ≤ Timing.maxProcessDenom) := by
    unfold startDenoms
    cases s.gyro.hardwareLowpass with
    | normal => exact ⟨h.syncDenom, h.processDenom⟩
    | oneKhzSample =>
      have hone : ((1 : UInt8) ≤ 1 ∧ 1 ≤ Timing.maxSyncDenom) ∧ (1 : UInt8) ≤ 1 ∧ 1 ≤ Timing.maxProcessDenom := by
        decide
      exact hone
  rw [fixLoop_value]
  exact ⟨h.profiles, hstart.1, slowEnough_mem _ _ _ hstart.2.1 hstart.2.2, h.beeper, h.vtx⟩

/-- loop timing takes away at most the dynamic filter -/
theorem trims_fixLoop (sensor : SensorModel) (s : Settings) : Trims s.features (fixLoop sensor s).value.features := by
  rw [fixLoop_value]
  dsimp only
  split_ifs
  · exact trims_sdiff_only (by decide) _
  · exact Trims.refl _

end Repair
end FlightStore
