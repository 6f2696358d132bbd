/-
What a device asks of the firmware around it and of its storage, as a trace of calls.

Signal sampling has to rest while the storage is busy: it is suspended before and resumed after every access.
-/
import FlightStore.Storage.Basic

namespace FlightStore

inductive Call where
  | suspendSampling
  | resumeSampling
  | tuneScheduler (on : Bool)
  /-- hands a rate profile and its slot to the stick processing -/
  | loadRateProfile (slot : Nat) (profile : RateProfile)
  | startStickProcessing
  | resetAdjustments
  /-- hands a PID profile to the control law -/
  | startControlLaw (profile : PidProfile)
  | startStickControls
  | resetFailsafe (settings : Failsafe)
  | trimAccelerometer (zero : Vector Int16 3)
  | configureAttitude (settings : ThrottleCorrection)
  | showLedStatus
  | setEscEndpoints (settings : Motor)
  /-- forbids arming until the next start -/
  | disableArming
  /-- confirms an action by so many pulses -/
  | acknowledge (pulses : Nat)
  | storage (access : Storage.Access)
deriving DecidableEq

/-- hands settings over to the running firmware, with these profiles -/
def activationWith (t : Target) (s : Settings) (rate : RateProfile) (pid : PidProfile) : List Call :=
  let tuned :=
    match s.system.schedulerTuning with
    | .on => true
    | .auto => s.motor.output.telemetry
    | .off => false
  [.tuneScheduler tuned, .loadRateProfile s.system.rateProfileIndex.toNat rate, .startStickProcessing,
    .resetAdjustments, .startControlLaw pid, .startStickControls, .resetFailsafe s.failsafe] ++
  (if .acc ∈ t.capabilities then [.trimAccelerometer s.accelerometer.zero] else []) ++
  [.configureAttitude s.throttleCorrection] ++
  (if .ledStripStatusMode ∈ t.capabilities then [.showLedStatus] else [])

/-- hands settings over to the running firmware -/
def activation (t : Target) (s : Settings) : List Call := activationWith t s s.rateProfile s.pidProfile

/-- calls made while sampling is suspended; it is resumed whatever happens in between -/
def suspended (calls : List Call) : List Call := .suspendSampling :: (calls ++ [.resumeSampling])

end FlightStore
