/-
Repair of the filters.

`clampFilters` brings every frequency under `filterMax`: a lowpass or the centre of a notch becomes `filterMax`, the
cutoff of a notch 0. `orderFilters` then switches off what is out of order: a notch whose cutoff is not below its
centre, a dynamic lowpass whose lower bound is above its upper bound, a reduced D gain that is not below the D gain.
-/
import FlightStore.Repair.Fixed
import FlightStore.Settings.Basic

namespace FlightStore.Repair

/-- largest frequency of a filter (Hz) -/
def filterMax : UInt16 := 4000

/-- a frequency above the largest is replaced -/
def limit (reset frequency : UInt16) : Fixed UInt16 := .assignIf (filterMax < frequency) frequency reset

def clampGyro (g : Gyro) : Fixed Gyro := do
  let lowpass ← limit filterMax g.lowpass
  let lowpass2 ← limit filterMax g.lowpass2
  let notch1 ← limit filterMax g.notch1
  let notchCutoff1 ← limit 0 g.notchCutoff1
  let notch2 ← limit filterMax g.notch2
  let notchCutoff2 ← limit 0 g.notchCutoff2
  return { g with lowpass, lowpass2, notch1, notchCutoff1, notch2, notchCutoff2 }

def clampProfile (p : PidProfile) : Fixed PidProfile := do
  let lowpass ← limit filterMax p.lowpass
  let lowpass2 ← limit filterMax p.lowpass2
  let notch ← limit filterMax p.notch
  let notchCutoff ← limit 0 p.notchCutoff
  return { p with lowpass, lowpass2, notch, notchCutoff }

/-- brings every frequency under the largest -/
def clampFilters (s : Settings) : Fixed Settings := do
  let gyro ← clampGyro s.gyro
  let pidProfiles ← .slots clampProfile s.pidProfiles
  return { s with gyro, pidProfiles }

/-- the centre of a notch, 0 if the cutoff is not below it -/
def orderNotch (centre cutoff : UInt16) : Fixed UInt16 := .assignIf (centre ≤ cutoff) centre 0

/-- the lower bound of a dynamic lowpass, 0 if it is above the upper bound -/
def orderDynamic (lo hi : UInt16) : Fixed UInt16 := .assignIf (hi < lo) lo 0

/-- a reduced D gain, 0 if it is not below the D gain -/
def orderDMin (dMin d : UInt8) : Fixed UInt8 := .assignIf (d ≤ dMin) dMin 0

def orderGyro (g : Gyro) : Fixed Gyro := do
  let notch1 ← orderNotch g.notch1 g.notchCutoff1
  let notch2 ← orderNotch g.notch2 g.notchCutoff2
  let dynamicMin ← orderDynamic g.dynamicMin g.dynamicMax
  return { g with notch1, notch2, dynamicMin }

def orderProfile (p : PidProfile) : Fixed PidProfile := do
  let notch ← orderNotch p.notch p.notchCutoff
  let dynamicMin ← orderDynamic p.dynamicMin p.dynamicMax
  let roll ← orderDMin p.dMin.roll p.gains.roll.d
  let pitch ← orderDMin p.dMin.pitch p.gains.pitch.d
  let yaw ← orderDMin p.dMin.yaw p.gains.yaw.d
  return { p with notch, dynamicMin, dMin := ⟨roll, pitch, yaw⟩ }

/-- switches off what is out of order -/
def orderFilters (s : Settings) : Fixed Settings := do
  let gyro ← orderGyro s.gyro
  let pidProfiles ← .slots orderProfile s.pidProfiles
  return { s with gyro, pidProfiles }

end FlightStore.Repair
