/-
PID profiles: gains and filters of the control law. Four are stored, one of them is active.
-/
import FlightStore.Profiles.CellCount
import FlightStore.Schema

namespace FlightStore

/-- one value for each axis of rotation -/
structure Axes (α : Type) where
  roll : α
  pitch : α
  yaw : α
deriving DecidableEq

/-- axes as an array of three, roll first -/
def Axes.schema {α : Type} (s : Schema α) : Schema (Axes α) :=
  (s.vector 3).map (fun a => #v[a.roll, a.pitch, a.yaw]) (fun v => ⟨v[0], v[1], v[2]⟩)

structure PidGains where
  p : UInt8
  i : UInt8
  d : UInt8
  /-- gain of the feed-forward -/
  f : UInt16
deriving DecidableEq

open Schema in
def PidGains.schema : Schema PidGains :=
  record (field "p" u8 <| field "i" u8 <| field "d" u8 <| field "f" u16 done)
    (fun g => (g.p, g.i, g.d, g.f, ())) (fun (p, i, d, f, _) => ⟨p, i, d, f⟩)

/-- capacity of the name of a profile, in bytes -/
def maxProfileName : Nat := 8

/-- number of PID profiles -/
def pidProfileCount : Nat := 4

/-- filter frequencies are in Hz, 0 switches a filter off -/
structure PidProfile where
  name : BoundedString maxProfileName := .empty
  gains : Axes PidGains := ⟨⟨42, 85, 35, 90⟩, ⟨46, 90, 38, 95⟩, ⟨45, 90, 0, 90⟩⟩
  /-- gain of the D term outside of sharp manoeuvres, 0 for none -/
  dMin : Axes UInt8 := ⟨23, 25, 0⟩
  lowpass : UInt16 := 150
  lowpass2 : UInt16 := 150
  notch : UInt16 := 0
  notchCutoff : UInt16 := 0
  /-- lower bound of the dynamic lowpass -/
  dynamicMin : UInt16 := 70
  dynamicMax : UInt16 := 170
  /-- share of the motor output in use (%) -/
  outputLimit : UInt8 := 100
  /-- the battery it is meant for, as stored -/
  cellByte : Int8 := CellSelector.stayByte
  throttleBoost : UInt8 := 5
  antiGravityGain : UInt16 := 3500
deriving DecidableEq

open Schema in
def PidProfile.schema : Schema PidProfile :=
  record
    (field "name" (boundedText maxProfileName) <| field "pid" (Axes.schema PidGains.schema) <|
      field "d_min" (Axes.schema u8) <| field "dterm_lowpass_hz" u16 <| field "dterm_lowpass2_hz" u16 <|
      field "dterm_notch_hz" u16 <| field "dterm_notch_cutoff" u16 <| field "dyn_lpf_dterm_min_hz" u16 <|
      field "dyn_lpf_dterm_max_hz" u16 <| field "motor_output_limit" u8 <| field "auto_profile_cell_count" i8 <|
      field "throttle_boost" u8 <| field "anti_gravity_gain" u16 done)
    (fun p => (p.name, p.gains, p.dMin, p.lowpass, p.lowpass2, p.notch, p.notchCutoff, p.dynamicMin, p.dynamicMax,
      p.outputLimit, p.cellByte, p.throttleBoost, p.antiGravityGain, ()))
    (fun (name, gains, dMin, lowpass, lowpass2, notch, cutoff, lo, hi, limit, cells, boost, antiGravity, _) =>
      ⟨name, gains, dMin, lowpass, lowpass2, notch, cutoff, lo, hi, limit, cells, boost, antiGravity⟩)

/-- the PID profiles in their slots -/
abbrev PidProfiles := Vector PidProfile pidProfileCount

end FlightStore
