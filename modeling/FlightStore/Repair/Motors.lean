/-
Repair of the motor output and of the loop timing that follows from it.

`fixProtocol` keeps the options of a protocol consistent: telemetry needs a digital protocol, a tuned scheduler and an
output that can receive. `fixLoop` makes sure that the control loop is not faster than the motors take commands, by
raising the denominator of the control loop, and switches the dynamic filter off where the gyro loop is too slow for
it.
-/
import FlightStore.Loop.Timing
import FlightStore.Repair.Radio

namespace FlightStore.Repair

/-- brushed motors cannot be reversed and need a lowest command -/
def fixBrushed (s : Settings) : Fixed Settings :=
  if s.motor.output.protocol = .brushed then do
    let features ← disable s.features (.only .threeD)
    let minCommand ← .assign s.motor.minCommand (max s.motor.minCommand brushedMinCommand)
    return { s with features, motor := { s.motor with minCommand } }
  else pure s

/-- whether telemetry from the motors cannot work -/
def TelemetryUnusable (tuning : SchedulerTuning) (o : MotorOutput) : Prop :=
  ¬ o.protocol.isDshot ∨ (o.bitbang = .off ∧ o.burst) ∨ tuning = .off

instance (tuning : SchedulerTuning) (o : MotorOutput) : Decidable (TelemetryUnusable tuning o) := by
  unfold TelemetryUnusable; infer_instance

def fixOutput (tuning : SchedulerTuning) (o : MotorOutput) : Fixed MotorOutput := do
  let pulseRate ← .assignIf (o.protocol = .standard ∧ brushlessPulseRate < o.pulseRate) o.pulseRate brushlessPulseRate
  let unsynced ← .assignIf o.protocol.isDshot o.unsynced false
  let bitbang ← .assignIf (o.protocol = .proshot1000 ∧ o.telemetry ∧ o.bitbang = .on) o.bitbang .auto
  let o := { o with pulseRate, unsynced, bitbang }
  let telemetry ← .assignIf (TelemetryUnusable tuning o) o.telemetry false
  return { o with telemetry }

/-- keeps the options of the motor protocol consistent -/
def fixProtocol (s : Settings) : Fixed Settings := do
  let s ← fixBrushed s
  let output ← fixOutput s.system.schedulerTuning s.motor.output
  return { s with motor := { s.motor with output } }

/-- the denominators to start from: the slow hardware lowpass leaves no room for others than 1 -/
def startDenoms (s : Settings) : UInt8 × UInt8 :=
  match s.gyro.hardwareLowpass with
  | .oneKhzSample => (1, 1)
  | .normal => (s.gyro.syncDenom, s.pidLoop.processDenom)

/-- a pulse rate of its own, bounded by the shortest interval of the protocol -/
def limitPulseRate (o : MotorOutput) : Fixed UInt16 :=
  let fastest := Timing.maxUpdateRate (Timing.updateRestriction o.protocol)
  .assignIf (o.unsynced ∧ o.protocol.limitsUnsyncedRate ∧ fastest < o.pulseRate) o.pulseRate fastest

/-- the denominator of the control loop that respects the shortest interval of a protocol -/
def slowEnough (o : MotorOutput) (sampling : Nat) (syncDenom processDenom : UInt8) : UInt8 :=
  let restriction := Timing.updateRestriction o.protocol
  if ¬ o.unsynced ∧ Timing.controlLoopPeriod sampling syncDenom processDenom < restriction then
    max processDenom (Timing.minProcessDenom restriction sampling syncDenom)
  else processDenom

/-- makes the control loop slow enough for the motors -/
def fixLoop (sensor : SensorModel) (s : Settings) : Fixed Settings := do
  let sampling := Timing.samplingInterval sensor s.gyro.hardwareLowpass
  let (sync, process) := startDenoms s
  let pulseRate ← limitPulseRate s.motor.output
  let syncDenom ← .assign s.gyro.syncDenom sync
  let processDenom ← .assign s.pidLoop.processDenom (slowEnough s.motor.output sampling sync process)
  let features ←
    if Timing.dynamicFilterLimit < sampling * sync.toNat then disable s.features (.only .dynamicFilter)
    else pure s.features
  return { s with
    motor := { s.motor with output := { s.motor.output with pulseRate } }
    gyro := { s.gyro with syncDenom }
    pidLoop := { processDenom }
    features }

end FlightStore.Repair
