/-
The settings of a craft: everything a user can adjust, in nineteen groups.

PID and rate profiles are kept in numbered slots; `pidProfile` and `rateProfile` are the ones that the system group
points at, or the first if it points past the last.
-/
import FlightStore.Craft.System
import FlightStore.Equipment.Beeper
import FlightStore.Equipment.Recording
import FlightStore.Equipment.Rescue
import FlightStore.Loop.Gyro
import FlightStore.Modes.Activation
import FlightStore.Motors.Motor
import FlightStore.Ports.Serial
import FlightStore.Profiles.Rates
import FlightStore.Radio.Feature
import FlightStore.Radio.Receiver

namespace FlightStore

structure Settings where
  pilot : Pilot := {}
  system : SystemState := {}
  features : FeatureSet := .empty
  serial : SerialPorts := {}
  receiver : Receiver := {}
  motor : Motor := {}
  gyro : Gyro := {}
  pidLoop : PidLoop := {}
  accelerometer : Accelerometer := {}
  throttleCorrection : ThrottleCorrection := {}
  gps : Gps := {}
  failsafe : Failsafe := {}
  modes : ModeConditions := .empty
  beeper : Beeper := {}
  blackbox : Blackbox := {}
  vtx : Vtx := {}
  vtxTable : VtxTable := {}
  pidProfiles : PidProfiles := .replicate pidProfileCount {}
  rateProfiles : RateProfiles := .replicate rateProfileCount {}
deriving DecidableEq

namespace Settings

/-- the active PID profile, the first for an index past the last -/
def pidProfile (s : Settings) : PidProfile :=
  s.pidProfiles[s.system.pidProfileIndex.toNat]?.getD s.pidProfiles[0]

/-- the active rate profile, the first for an index past the last -/
def rateProfile (s : Settings) : RateProfile :=
  s.rateProfiles[s.system.rateProfileIndex.toNat]?.getD s.rateProfiles[0]

/-- whether a user has ever saved these settings -/
def Configured (s : Settings) : Prop := s.system.configurationState = .configured

instance (s : Settings) : Decidable s.Configured :=
  inferInstanceAs (Decidable (s.system.configurationState = .configured))

open Schema in
def schema : Schema Settings :=
  record
    (field "pilot" Pilot.schema <| field "system" SystemState.schema <| field "features" flags <|
      field "serial" SerialPorts.schema <| field "rx" Receiver.schema <| field "motor" Motor.schema <|
      field "gyro" Gyro.schema <| field "pid" PidLoop.schema <| field "accelerometer" Accelerometer.schema <|
      field "throttle_correction" ThrottleCorrection.schema <| field "gps" Gps.schema <|
      field "failsafe" Failsafe.schema <| field "modes" ModeConditions.schema <| field "beeper" Beeper.schema <|
      field "blackbox" Blackbox.schema <| field "vtx" Vtx.schema <| field "vtx_table" VtxTable.schema <|
      field "pid_profiles" (PidProfile.schema.vector pidProfileCount) <|
      field "rate_profiles" (RateProfile.schema.vector rateProfileCount) done)
    (fun s => (s.pilot, s.system, s.features, s.serial, s.receiver, s.motor, s.gyro, s.pidLoop, s.accelerometer,
      s.throttleCorrection, s.gps, s.failsafe, s.modes, s.beeper, s.blackbox, s.vtx, s.vtxTable, s.pidProfiles,
      s.rateProfiles, ()))
    (fun (pilot, system, features, serial, receiver, motor, gyro, pidLoop, accelerometer, throttleCorrection, gps,
      failsafe, modes, beeper, blackbox, vtx, vtxTable, pidProfiles, rateProfiles, _) =>
      ⟨pilot, system, features, serial, receiver, motor, gyro, pidLoop, accelerometer, throttleCorrection, gps, failsafe,
        modes, beeper, blackbox, vtx, vtxTable, pidProfiles, rateProfiles⟩)

/-- settings as JSON -/
def toJson (s : Settings) : Json := schema.json.write s

/-- settings read from JSON -/
def ofJson? (j : Json) : Option Settings := schema.json.read j

end Settings
end FlightStore
