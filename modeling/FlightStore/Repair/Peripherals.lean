/-
Repair of features, ports and receiver settings that depend on each other.

A feature that needs a serial port is switched off if no port provides its function. Rescue by GPS needs GPS, and a
craft whose motors do not reverse. Frame errors are no source of signal strength next to another one. Feed-forward and
throttle boost need a smoothed setpoint on their axes.
-/
import FlightStore.Repair.Radio

namespace FlightStore.Repair

/-- with positions from a companion device no port may run GPS, otherwise GPS needs a port -/
def fixGpsPort (s : Settings) : Fixed Settings :=
  if s.gps.provider = .msp then
    ⟨{ s with serial := s.serial.remove (.only .gps) }, s.serial.Has (.only .gps)⟩
  else if ¬ s.serial.Has (.only .gps) then do return { s with features := ← disable s.features (.only .gps) }
  else pure s

/-- a feature that needs a port with one of the functions -/
def needPort (f : Feature) (fs : SerialFunctions) (s : Settings) : Fixed Settings :=
  if ¬ s.serial.Has fs then do return { s with features := ← disable s.features (.only f) } else pure s

/-- switches off features without a port -/
def fixSerialFeatures (s : Settings) : Fixed Settings := do
  let s ← fixGpsPort s
  let s ← needPort .telemetry SerialFunctions.telemetry s
  needPort .escSensor (.only .escSensor) s

/-- whether rescue by GPS can work -/
def RescueAvailable (caps : Capabilities) (fs : FeatureSet) : Prop :=
  .threeD ∉ fs ∧ .gps ∈ fs ∧ .gps ∈ caps ∧ .gpsRescue ∈ caps

instance (caps : Capabilities) (fs : FeatureSet) : Decidable (RescueAvailable caps fs) := by
  unfold RescueAvailable; infer_instance

/-- without rescue by GPS, neither the failsafe nor a mode may ask for it -/
def fixRescue (caps : Capabilities) (s : Settings) : Fixed Settings :=
  if RescueAvailable caps s.features then pure s
  else do
    let procedure ← .assignIf (s.failsafe.procedure = .gpsRescue) s.failsafe.procedure .drop
    let modes ← ⟨ModeConditions.remove s.modes .gpsRescue, ModeConditions.Present s.modes .gpsRescue⟩
    return { s with failsafe := { s.failsafe with procedure }, modes }

/-- keeps one source of signal strength -/
def fixRssi (fs : FeatureSet) (r : Receiver) : Fixed Receiver :=
  if .rssiAdc ∈ fs then do
    let rssiChannel ← .assign r.rssiChannel 0
    let rssiFromFrameErrors ← .assign r.rssiFromFrameErrors false
    return { r with rssiChannel, rssiFromFrameErrors }
  else do
    let otherSource := r.rssiChannel ≠ 0 ∨ .rxPpm ∈ fs ∨ .rxParallelPwm ∈ fs
    let rssiFromFrameErrors ← .assignIf otherSource r.rssiFromFrameErrors false
    return { r with rssiFromFrameErrors }

/-- whether the setpoints of roll and pitch are smoothed -/
def SmoothsRollPitch (r : Receiver) : Prop := r.smoothing ∧ r.smoothedChannels ≠ .t

/-- whether the setpoint of yaw is smoothed -/
def SmoothsYaw (r : Receiver) : Prop := r.smoothing ∧ r.smoothedChannels.includesYaw

/-- whether the throttle is smoothed -/
def SmoothsThrottle (r : Receiver) : Prop := r.smoothing ∧ r.smoothedChannels.includesThrottle

instance (r : Receiver) : Decidable (SmoothsRollPitch r) := by unfold SmoothsRollPitch; infer_instance

instance (r : Receiver) : Decidable (SmoothsYaw r) := by unfold SmoothsYaw; infer_instance

instance (r : Receiver) : Decidable (SmoothsThrottle r) := by unfold SmoothsThrottle; infer_instance

/-- takes feed-forward and throttle boost off the axes without smoothing -/
def fixUnsmoothed (r : Receiver) (p : PidProfile) : Fixed PidProfile := do
  let rollF ← .assignIf (¬ SmoothsRollPitch r) p.gains.roll.f 0
  let pitchF ← .assignIf (¬ SmoothsRollPitch r) p.gains.pitch.f 0
  let yawF ← .assignIf (¬ SmoothsYaw r) p.gains.yaw.f 0
  let throttleBoost ← .assignIf (¬ SmoothsThrottle r) p.throttleBoost 0
  return { p with
    gains := ⟨{ p.gains.roll with f := rollF }, { p.gains.pitch with f := pitchF }, { p.gains.yaw with f := yawF }⟩
    throttleBoost }

/-- makes features, ports and receiver settings agree -/
def fixPeripherals (caps : Capabilities) (s : Settings) : Fixed Settings := do
  let s ← fixSerialFeatures s
  let s ← fixRescue caps s
  let receiver ← fixRssi s.features s.receiver
  let pidProfiles ← .slots (fixUnsmoothed s.receiver) s.pidProfiles
  return { s with receiver, pidProfiles }

end FlightStore.Repair
