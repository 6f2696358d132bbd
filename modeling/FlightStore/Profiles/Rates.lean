/-
Rate profiles: how stick deflections become rates of rotation. Six are stored, one of them is active.
-/
import FlightStore.Profiles.Pid

namespace FlightStore

/-- number of rate profiles -/
def rateProfileCount : Nat := 6

structure RateProfile where
  name : BoundedString maxProfileName := .empty
  rcRates : Axes UInt8 := ⟨100, 100, 100⟩
  expo : Axes UInt8 := ⟨0, 0, 0⟩
  /-- increase of the rate with the deflection of the stick -/
  superRates : Axes UInt8 := ⟨70, 70, 70⟩
  throttleMid : UInt8 := 50
  throttleExpo : UInt8 := 0
  /-- attenuation of the gains by throttle (%) -/
  tpaRate : UInt8 := 65
  /-- throttle above which the attenuation starts (µs) -/
  tpaBreakpoint : UInt16 := 1350
deriving DecidableEq

open Schema in
def RateProfile.schema : Schema RateProfile :=
  record
    (field "name" (boundedText maxProfileName) <| field "rc_rates" (Axes.schema u8) <|
      field "rc_expo" (Axes.schema u8) <| field "rates" (Axes.schema u8) <| field "throttle_mid" u8 <|
      field "throttle_expo" u8 <| field "tpa_rate" u8 <| field "tpa_breakpoint" u16 done)
    (fun r => (r.name, r.rcRates, r.expo, r.superRates, r.throttleMid, r.throttleExpo, r.tpaRate, r.tpaBreakpoint, ()))
    (fun (name, rcRates, expo, superRates, mid, throttleExpo, rate, breakpoint, _) =>
      ⟨name, rcRates, expo, superRates, mid, throttleExpo, rate, breakpoint⟩)

/-- the rate profiles in their slots -/
abbrev RateProfiles := Vector RateProfile rateProfileCount

end FlightStore
