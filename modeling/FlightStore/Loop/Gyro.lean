/-
Settings of the gyro, its filters, the accelerometer and the rate of the control loop.
-/
import FlightStore.Schema

namespace FlightStore

/-- the lowpass inside the gyro sensor -/
inductive HardwareLowpass where
  | normal
  /-- lowpass with one thousand samples a second, which leaves no room for slower loops -/
  | oneKhzSample
deriving DecidableEq, Repr

instance : Choice HardwareLowpass where
  all := [.normal, .oneKhzSample]
  name
    | .normal => "Normal"
    | .oneKhzSample => "OneKhzSample"

/-- filter frequencies are in Hz, 0 switches a filter off -/
structure Gyro where
  hardwareLowpass : HardwareLowpass := .normal
  /-- the gyro loop runs at every n-th sample -/
  syncDenom : UInt8 := 1
  lowpass : UInt16 := 200
  lowpass2 : UInt16 := 250
  notch1 : UInt16 := 0
  notchCutoff1 : UInt16 := 0
  notch2 : UInt16 := 0
  notchCutoff2 : UInt16 := 0
  /-- lower bound of the dynamic lowpass -/
  dynamicMin : UInt16 := 200
  dynamicMax : UInt16 := 500
deriving DecidableEq

open Schema in
def Gyro.schema : Schema Gyro :=
  record
    (field "hardware_lpf" choice <| field "sync_denom" u8 <| field "lowpass_hz" u16 <| field "lowpass2_hz" u16 <|
      field "soft_notch_hz_1" u16 <| field "soft_notch_cutoff_1" u16 <| field "soft_notch_hz_2" u16 <|
      field "soft_notch_cutoff_2" u16 <| field "dyn_lpf_min_hz" u16 <| field "dyn_lpf_max_hz" u16 done)
    (fun g => (g.hardwareLowpass, g.syncDenom, g.lowpass, g.lowpass2, g.notch1, g.notchCutoff1, g.notch2, g.notchCutoff2,
      g.dynamicMin, g.dynamicMax, ()))
    (fun (hardware, sync, lowpass, lowpass2, n1, c1, n2, c2, lo, hi, _) =>
      ⟨hardware, sync, lowpass, lowpass2, n1, c1, n2, c2, lo, hi⟩)

/-- rate of the control loop -/
structure PidLoop where
  /-- the control loop runs at every n-th turn of the gyro loop -/
  processDenom : UInt8 := 2
deriving DecidableEq

open Schema in
def PidLoop.schema : Schema PidLoop :=
  record (field "pid_process_denom" u8 done) (fun l => (l.processDenom, ())) (fun (denom, _) => ⟨denom⟩)

structure Accelerometer where
  /-- offsets of the three axes, subtracted from the readings -/
  zero : Vector Int16 3 := .replicate 3 0
  lowpass : UInt16 := 10
deriving DecidableEq

open Schema in
def Accelerometer.schema : Schema Accelerometer :=
  record (field "acc_zero" (i16.vector 3) <| field "acc_lpf_hz" u16 done)
    (fun a => (a.zero, a.lowpass, ())) (fun (zero, lowpass, _) => ⟨zero, lowpass⟩)

/-- throttle added while the craft is tilted -/
structure ThrottleCorrection where
  /-- tilt with the full correction (tenths of a degree) -/
  angle : UInt16 := 800
  /-- throttle added at that tilt (µs) -/
  value : UInt8 := 0
deriving DecidableEq

open Schema in
def ThrottleCorrection.schema : Schema ThrottleCorrection :=
  record (field "throttle_correction_angle" u16 <| field "throttle_correction_value" u8 done)
    (fun t => (t.angle, t.value, ())) (fun (angle, value, _) => ⟨angle, value⟩)

end FlightStore
