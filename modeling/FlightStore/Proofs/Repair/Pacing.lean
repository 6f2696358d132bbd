/-
The pace of the control loop after repair.

A pass clamps the denominators, switches a pulse rate of its own off for digital protocols, and only then raises the
denominator of the control loop, in three rules with others in between. `Paced` says what comes out of it, given the
settings from before: denominators in their ranges, the denominator of the control loop raised no further than the motors
need, pulse rates that the protocol takes and the dynamic filter off where the gyro loop is too slow for it.
-/
import Mathlib.Order.Bounds.Basic
import FlightStore.Proofs.Loop.Timing
import FlightStore.Proofs.Repair.Stages

namespace FlightStore.Repair

variable {t : Target} {sensor : SensorModel} {s : Settings}

/-! ## What the rules keep -/

namespace Rule

/-- no rule changes the lowpass inside the sensor -/
theorem hardwareLowpass_apply (r : Rule) (s : Settings) :
    (r.apply t sensor s).value.gyro.hardwareLowpass = s.gyro.hardwareLowpass := by
  cases r with
  | ranges => rw [apply, fixRanges_value]
  | motorProtocol => rw [apply, fixProtocol_value]
  | loopTiming => rw [apply, fixLoop_value]
  | peripherals => rw [apply, fixPeripherals_frame]
  | _ => rfl

/-- no rule changes the protocol of the motors -/
theorem protocol_apply (r : Rule) (s : Settings) :
    (r.apply t sensor s).value.motor.output.protocol = s.motor.output.protocol := by
  cases r with
  | ranges => rw [apply, fixRanges_value]
  | motorProtocol =>
    rw [apply, fixProtocol_value]
    rfl
  | loopTiming => rw [apply, fixLoop_value]
  | peripherals => rw [apply, fixPeripherals_frame]
  | _ => rfl

/-- in front of the loop timing, a denominator of the control loop is at most clamped -/
theorem clamp_processDenom_apply {r : Rule} (hr : r.Before loopTiming) (s : Settings) :
    clamp 1 Timing.maxProcessDenom (r.apply t sensor s).value.pidLoop.processDenom =
      clamp 1 Timing.maxProcessDenom s.pidLoop.processDenom := by
  cases r with
  | ranges =>
    obtain ⟨hlo, hhi⟩ := clamp_mem (by decide : 1 ≤ Timing.maxProcessDenom) s.pidLoop.processDenom
    rw [apply, fixRanges_value]
    exact clamp_eq_self hlo hhi
  | motorProtocol => rw [apply, fixProtocol_value]
  | loopTiming | peripherals | modeLinks | profileIndices => exact absurd hr (by decide)
  | _ => rfl

/-- behind the loop timing, no rule changes a loop or the motors -/
theorem loops_apply (t : Target) (sensor : SensorModel) {r : Rule} (hr : loopTiming.Before r) (s : Settings) :
    (r.apply t sensor s).value.gyro = s.gyro ∧ (r.apply t sensor s).value.pidLoop = s.pidLoop ∧
      (r.apply t sensor s).value.motor = s.motor := by
  cases r with
  | peripherals =>
    rw [apply, fixPeripherals_frame]
    exact ⟨rfl, rfl, rfl⟩
  | modeLinks | profileIndices => exact ⟨rfl, rfl, rfl⟩
  | _ => exact absurd hr (by decide)

end Rule

theorem hardwareLowpass_repair (t : Target) (sensor : SensorModel) (s : Settings) :
    (repair t sensor s).settings.gyro.hardwareLowpass = s.gyro.hardwareLowpass :=
  repair_eq_of_forall (f := fun s' => s'.gyro.hardwareLowpass) fun r s' => r.hardwareLowpass_apply s'

theorem protocol_repair (t : Target) (sensor : SensorModel) (s : Settings) :
    (repair t sensor s).settings.motor.output.protocol = s.motor.output.protocol :=
  repair_eq_of_forall (f := fun s' => s'.motor.output.protocol) fun r s' => r.protocol_apply s'

/-! ## The denominator of the control loop -/

/-- the smallest denominator from `start` on with which the control loop is slow enough, or the largest there is if none
is slow enough -/
def LeastSlow (restriction sampling : Nat) (sync start p : UInt8) : Prop :=
  IsLeast {q | start ≤ q ∧ q ≤ Timing.maxProcessDenom ∧ restriction ≤ Timing.controlLoopPeriod sampling sync q} p ∨
    p = Timing.maxProcessDenom ∧
      ∀ q, start ≤ q → q ≤ Timing.maxProcessDenom → Timing.controlLoopPeriod sampling sync q < restriction

/-- a loop that is tied to the motors is slowed down no further than they need -/
theorem leastSlow_slowEnough {o : MotorOutput} {sampling : Nat} {sync start : UInt8} (ho : o.unsynced = false)
    (hsampling : 0 < sampling) (hsync : 1 ≤ sync) (hlo : 1 ≤ start) (hhi : start ≤ Timing.maxProcessDenom) :
    LeastSlow (Timing.updateRestriction o.protocol) sampling sync start (slowEnough o sampling sync start) := by
  unfold slowEnough
  dsimp only
  set restriction := Timing.updateRestriction o.protocol
  set least := Timing.minProcessDenom restriction sampling sync
  split_ifs with hfast
  · replace hfast := hfast.2
    have hthreshold : restriction ≤ Timing.controlLoopPeriod sampling sync least ∨ least = Timing.maxProcessDenom :=
      Timing.slow_or_eq_max restriction hsampling hsync
    have hstart : start ≤ least := by
      rcases hthreshold with hslow | hmax
      · by_contra hlt
        have hle : least ≤ start := UInt8.le_of_lt (UInt8.not_le.1 hlt)
        have hperiod := Timing.controlLoopPeriod_mono sampling sync hle
        omega
      · rw [hmax]
        exact hhi
    have hraised : max start least = least := maxOfLe_eq_right hstart
    rw [hraised]
    by_cases hslow : restriction ≤ Timing.controlLoopPeriod sampling sync least
    · refine Or.inl ⟨⟨hstart, (Timing.minProcessDenom_mem _ _ _).2, hslow⟩, ?_⟩
      rintro q ⟨hq, -, hqslow⟩
      exact Timing.minProcessDenom_le_of_slow hsampling hsync (UInt8.le_trans hlo hq) hqslow
    · have hmax : least = Timing.maxProcessDenom := hthreshold.resolve_left hslow
      refine Or.inr ⟨hmax, fun q _ hq => ?_⟩
      rw [← hmax] at hq
      have hperiod := Timing.controlLoopPeriod_mono sampling sync hq
      omega
  · have hslow : restriction ≤ Timing.controlLoopPeriod sampling sync start :=
      Nat.not_lt.1 fun hlt => hfast ⟨by simp [ho], hlt⟩
    exact Or.inl ⟨⟨UInt8.le_refl _, hhi, hslow⟩, fun q hq => hq.1⟩

/-- a loop that runs on its own keeps its denominator -/
theorem slowEnough_unsynced {o : MotorOutput} (ho : o.unsynced = true) (sampling : Nat) (sync start : UInt8) :
    slowEnough o sampling sync start = start :=
  if_neg fun h => h.1 ho

/-- the denominator that the settings ask for, brought into its range; the slow lowpass leaves no room for others than
1 -/
def requestedDenom (s : Settings) : UInt8 :=
  match s.gyro.hardwareLowpass with
  | .oneKhzSample => 1
  | .normal => clamp 1 Timing.maxProcessDenom s.pidLoop.processDenom

theorem requestedDenom_mem (s : Settings) : 1 ≤ requestedDenom s ∧ requestedDenom s ≤ Timing.maxProcessDenom := by
  unfold requestedDenom
  cases s.gyro.hardwareLowpass with
  | normal => exact clamp_mem (by decide) _
  | oneKhzSample => exact (by decide : (1 : UInt8) ≤ 1 ∧ 1 ≤ Timing.maxProcessDenom)

/-- the loop timing starts from the denominator that the settings before the pass ask for -/
theorem startDenoms_found (t : Target) (sensor : SensorModel) (s : Settings) :
    (startDenoms (found t sensor s .loopTiming)).2 = requestedDenom s := by
  set mid := found t sensor s .loopTiming
  have hlowpass : mid.gyro.hardwareLowpass = s.gyro.hardwareLowpass :=
    found_eq (f := fun s' => s'.gyro.hardwareLowpass) fun q _ s' => q.hardwareLowpass_apply s'
  have hclamp : clamp 1 Timing.maxProcessDenom mid.pidLoop.processDenom =
      clamp 1 Timing.maxProcessDenom s.pidLoop.processDenom :=
    found_eq (f := fun s' => clamp 1 Timing.maxProcessDenom s'.pidLoop.processDenom) fun q hq s' =>
      Rule.clamp_processDenom_apply hq s'
  have hrange : InRange t.capabilities mid := found_holds (q := .ranges) (by decide) (Rule.suits_of_ne (by decide))
  unfold startDenoms requestedDenom
  rw [hlowpass, ← hclamp, clamp_eq_self hrange.processDenom.1 hrange.processDenom.2]
  cases s.gyro.hardwareLowpass <;> rfl

/-- after a pass, the denominator of the control loop is the requested one, made slow enough for the motors -/
theorem processDenom_repair (t : Target) (sensor : SensorModel) (s : Settings) :
    (repair t sensor s).settings.pidLoop.processDenom =
      slowEnough (repair t sensor s).settings.motor.output
        (Timing.samplingInterval sensor (repair t sensor s).settings.gyro.hardwareLowpass)
        (repair t sensor s).settings.gyro.syncDenom (requestedDenom s) := by
  refine repair_keeps (P := fun s' => s'.pidLoop.processDenom = slowEnough s'.motor.output
    (Timing.samplingInterval sensor s'.gyro.hardwareLowpass) s'.gyro.syncDenom (requestedDenom s)) .loopTiming ?_ ?_
  · intro q hq s' h
    obtain ⟨hgyro, hloop, hmotor⟩ := Rule.loops_apply t sensor hq s'
    rw [hgyro, hloop, hmotor]
    exact h
  · rw [Rule.apply, fixLoop_value, startDenoms_found]
    rfl

/-! ## Pace -/

/-- the pace of a craft whose settings were `s` before a pass and are `s'` after it -/
structure Paced (sensor : SensorModel) (s s' : Settings) : Prop where
  /-- sensor and motors are those from before, and with them the intervals that the loops depend on -/
  lowpass : s'.gyro.hardwareLowpass = s.gyro.hardwareLowpass
  protocol : s'.motor.output.protocol = s.motor.output.protocol
  syncDenom : 1 ≤ s'.gyro.syncDenom ∧ s'.gyro.syncDenom ≤ 32
  processDenom : 1 ≤ s'.pidLoop.processDenom ∧ s'.pidLoop.processDenom ≤ 16
  oneKhz : s.gyro.hardwareLowpass = .oneKhzSample → s'.gyro.syncDenom = 1
  /-- tied to the motors, the control loop is slowed down as little as they need -/
  synced : s'.motor.output.unsynced = false →
    LeastSlow (Timing.updateRestriction s.motor.output.protocol)
      (Timing.samplingInterval sensor s.gyro.hardwareLowpass) s'.gyro.syncDenom (requestedDenom s)
      s'.pidLoop.processDenom
  unsynced : s'.motor.output.unsynced = true → s'.pidLoop.processDenom = requestedDenom s
  /-- a pulse rate of its own leaves the motors their shortest interval -/
  pulseRate : s'.motor.output.unsynced = true →
    s.motor.output.protocol ∈ [.oneshot125, .oneshot42, .multishot, .brushed] →
    s'.motor.output.pulseRate.toNat * Timing.updateRestriction s.motor.output.protocol ≤ Timing.nanosPerSecond
  standard : s.motor.output.protocol = .standard → s'.motor.output.pulseRate ≤ 480
  dynamicFilter : .dynamicFilter ∈ s'.features →
    Timing.samplingInterval sensor s.gyro.hardwareLowpass * s'.gyro.syncDenom.toNat ≤ 500000
  /-- whatever the denominators are, the periods of both loops are computed without an overflow -/
  durations : ∀ sync process : UInt8,
    Timing.times? (Timing.samplingInterval sensor s.gyro.hardwareLowpass) (sync.toUInt32 * process.toUInt32) =
        some (Timing.controlLoopPeriod (Timing.samplingInterval sensor s.gyro.hardwareLowpass) sync process) ∧
      Timing.times? (Timing.samplingInterval sensor s.gyro.hardwareLowpass) sync.toUInt32 =
        some (Timing.samplingInterval sensor s.gyro.hardwareLowpass * sync.toNat)

/-- **Repair sets a safe pace.** For all settings, every target and every sensor, a pass leaves loops and motors paced. -/
theorem repair_paced (t : Target) (sensor : SensorModel) (s : Settings) :
    Paced sensor s (repair t sensor s).settings := by
  set s' := (repair t sensor s).settings with hs'
  have hlowpass : s'.gyro.hardwareLowpass = s.gyro.hardwareLowpass := hardwareLowpass_repair t sensor s
  have hprotocol : s'.motor.output.protocol = s.motor.output.protocol := protocol_repair t sensor s
  have hholds : ∀ r : Rule, r ≠ .rxExclusion → r.Holds t sensor s' := fun r hr =>
    repair_holds (Rule.suits_of_ne hr) sensor s
  have hrange : InRange t.capabilities s' := hholds .ranges (by decide)
  have hmotor : ProtocolConsistent s' := hholds .motorProtocol (by decide)
  have htimed : LoopTimed sensor s' := hholds .loopTiming (by decide)
  have hprocess := processDenom_repair t sensor s
  rw [← hs', hlowpass] at hprocess
  obtain ⟨hstartLo, hstartHi⟩ := requestedDenom_mem s
  refine ⟨hlowpass, hprotocol, hrange.syncDenom, hrange.processDenom, fun hslow => ?_, fun hsynced => ?_, fun hu => ?_,
    fun hu hp => ?_, fun hp => ?_, fun hf => ?_, fun sync process => ?_⟩
  · have hstart := htimed.syncDenom
    rw [startDenoms, hlowpass, hslow] at hstart
    exact hstart.symm
  · have hpositive := Timing.samplingInterval_pos sensor s.gyro.hardwareLowpass
    rw [hprocess, ← hprotocol]
    exact leastSlow_slowEnough hsynced hpositive hrange.syncDenom.1 hstartLo hstartHi
  · rw [hprocess, slowEnough_unsynced hu]
  · have hlimited : s'.motor.output.protocol.limitsUnsyncedRate := by
      rw [hprotocol]
      revert hp
      cases s.motor.output.protocol <;> decide
    have hrate := UInt16.le_iff_toNat_le.1 (htimed.pulseRate hu hlimited)
    rw [← hprotocol]
    exact Nat.le_trans (Nat.mul_le_mul_right _ hrate) (Timing.maxUpdateRate_mul_le hlimited)
  · exact hmotor.pulseRate (hprotocol.trans hp)
  · by_contra hslow
    have hlimit := htimed.dynamicFilter
    rw [hlowpass] at hlimit
    exact hlimit (Nat.not_le.1 hslow) hf
  · exact ⟨Timing.times?_controlLoopPeriod sensor _ sync process, Timing.times?_sync sensor _ sync⟩

end FlightStore.Repair
