/-
The groups of the settings: how the store is partitioned.

A group has a number and a version, which are part of the storage format. Its row in the table says how settings are
reset, encoded and decoded in the part that the group stands for.
-/
import FlightStore.Board.Target

namespace FlightStore

open FlightStore.Wire

inductive GroupId where
  | pilot
  | system
  | features
  | serial
  | rx
  | motor
  | gyro
  | pid
  | accelerometer
  | throttleCorrection
  | gps
  | failsafe
  | modeActivations
  | beeper
  | blackbox
  | vtx
  | vtxTable
  | pidProfiles
  | rateProfiles
deriving DecidableEq, Repr

namespace GroupId

/-- every group, in the order of their numbers -/
def list : List GroupId :=
  [.pilot, .system, .features, .serial, .rx, .motor, .gyro, .pid, .accelerometer, .throttleCorrection, .gps, .failsafe,
    .modeActivations, .beeper, .blackbox, .vtx, .vtxTable, .pidProfiles, .rateProfiles]

instance : Choice GroupId where
  all := list
  name
    | pilot => "Pilot"
    | system => "System"
    | features => "Features"
    | serial => "Serial"
    | rx => "Rx"
    | motor => "Motor"
    | gyro => "Gyro"
    | pid => "Pid"
    | accelerometer => "Accelerometer"
    | throttleCorrection => "ThrottleCorrection"
    | gps => "Gps"
    | failsafe => "Failsafe"
    | modeActivations => "ModeActivations"
    | beeper => "Beeper"
    | blackbox => "Blackbox"
    | vtx => "Vtx"
    | vtxTable => "VtxTable"
    | pidProfiles => "PidProfiles"
    | rateProfiles => "RateProfiles"

/-- the groups are numbered from one -/
def number (g : GroupId) : UInt16 := UInt16.ofNat (list.idxOf g + 1)

/-- the group with a number -/
def ofNumber? (n : UInt16) : Option GroupId := list.find? (fun g => g.number = n)

end GroupId

/-- a row of the table: the number and the version of a group, and how the group is reset, encoded and decoded -/
structure Group where
  id : GroupId
  version : UInt8 := 1
  reset : Target → Settings → Settings
  /-- the stored form, if a buffer of a size takes it -/
  encode : Nat → Settings → Except WireError (List UInt8)
  /-- takes over what the bytes start with; bytes behind it are ignored -/
  decode : List UInt8 → Settings → Except WireError Settings

/-- a PID profile after a reset, whatever it was -/
def PidProfile.reset (_ : PidProfile) : PidProfile := {}

/-- a rate profile after a reset, whatever it was -/
def RateProfile.reset (_ : RateProfile) : RateProfile := {}

/-- what stands behind the number of a group -/
def GroupId.group : GroupId → Group
  | pilot =>
    { id := .pilot
      reset := fun _ s => { s with pilot := {} }
      encode := fun size s => Pilot.schema.wire.putInto size s.pilot
      decode := fun bytes s => (Pilot.schema.wire.read bytes).map fun v => { s with pilot := v } }
  | system =>
    { id := .system
      version := 2
      reset := fun t s => { s with system := { boardIdentifier := t.boardIdentifier } }
      encode := fun size s => SystemState.schema.wire.putInto size s.system
      decode := fun bytes s => (SystemState.schema.wire.read bytes).map fun v => { s with system := v } }
  | features =>
    { id := .features
      reset := fun t s => { s with features := t.defaultFeatures ∪ t.defaultRadio }
      encode := fun size s => Schema.flags.wire.putInto size s.features
      decode := fun bytes s => (Schema.flags.wire.read bytes).map fun v => { s with features := v } }
  | serial =>
    { id := .serial
      reset := fun _ s => { s with serial := {} }
      encode := fun size s => SerialPorts.schema.wire.putInto size s.serial
      decode := fun bytes s => (SerialPorts.schema.wire.read bytes).map fun v => { s with serial := v } }
  | rx =>
    { id := .rx
      reset := fun _ s => { s with receiver := {} }
      encode := fun size s => Receiver.schema.wire.putInto size s.receiver
      decode := fun bytes s => (Receiver.schema.wire.read bytes).map fun v => { s with receiver := v } }
  | motor =>
    { id := .motor
      reset := fun _ s => { s with motor := {} }
      encode := fun size s => Motor.schema.wire.putInto size s.motor
      decode := fun bytes s => (Motor.schema.wire.read bytes).map fun v => { s with motor := v } }
  | gyro =>
    { id := .gyro
      reset := fun _ s => { s with gyro := {} }
      encode := fun size s => Gyro.schema.wire.putInto size s.gyro
      decode := fun bytes s => (Gyro.schema.wire.read bytes).map fun v => { s with gyro := v } }
  | pid =>
    { id := .pid
      reset := fun _ s => { s with pidLoop := {} }
      encode := fun size s => PidLoop.schema.wire.putInto size s.pidLoop
      decode := fun bytes s => (PidLoop.schema.wire.read bytes).map fun v => { s with pidLoop := v } }
  | accelerometer =>
    { id := .accelerometer
      reset := fun _ s => { s with accelerometer := {} }
      encode := fun size s => Accelerometer.schema.wire.putInto size s.accelerometer
      decode := fun bytes s => (Accelerometer.schema.wire.read bytes).map fun v => { s with accelerometer := v } }
  | throttleCorrection =>
    { id := .throttleCorrection
      reset := fun _ s => { s with throttleCorrection := {} }
      encode := fun size s => ThrottleCorrection.schema.wire.putInto size s.throttleCorrection
      decode := fun bytes s =>
        (ThrottleCorrection.schema.wire.read bytes).map fun v => { s with throttleCorrection := v } }
  | gps =>
    { id := .gps
      reset := fun _ s => { s with gps := {} }
      encode := fun size s => Gps.schema.wire.putInto size s.gps
      decode := fun bytes s => (Gps.schema.wire.read bytes).map fun v => { s with gps := v } }
  | failsafe =>
    { id := .failsafe
      reset := fun _ s => { s with failsafe := {} }
      encode := fun size s => Failsafe.schema.wire.putInto size s.failsafe
      decode := fun bytes s => (Failsafe.schema.wire.read bytes).map fun v => { s with failsafe := v } }
  | modeActivations =>
    { id := .modeActivations
      reset := fun _ s => { s with modes := .empty }
      encode := fun size s => ModeConditions.schema.wire.putInto size s.modes
      decode := fun bytes s => (ModeConditions.schema.wire.read bytes).map fun v => { s with modes := v } }
  | beeper =>
    { id := .beeper
      reset := fun _ s => { s with beeper := {} }
      encode := fun size s => Beeper.schema.wire.putInto size s.beeper
      decode := fun bytes s => (Beeper.schema.wire.read bytes).map fun v => { s with beeper := v } }
  | blackbox =>
    { id := .blackbox
      reset := fun _ s => { s with blackbox := {} }
      encode := fun size s => Blackbox.schema.wire.putInto size s.blackbox
      decode := fun bytes s => (Blackbox.schema.wire.read bytes).map fun v => { s with blackbox := v } }
  | vtx =>
    { id := .vtx
      reset := fun _ s => { s with vtx := {} }
      encode := fun size s => Vtx.schema.wire.putInto size s.vtx
      decode := fun bytes s => (Vtx.schema.wire.read bytes).map fun v => { s with vtx := v } }
  | vtxTable =>
    { id := .vtxTable
      reset := fun _ s => { s with vtxTable := {} }
      encode := fun size s => VtxTable.schema.wire.putInto size s.vtxTable
      decode := fun bytes s => (VtxTable.schema.wire.read bytes).map fun v => { s with vtxTable := v } }
  | pidProfiles =>
    { id := .pidProfiles
      reset := fun _ s => { s with pidProfiles := s.pidProfiles.map PidProfile.reset }
      encode := fun size s => (PidProfile.schema.vector pidProfileCount).wire.putInto size s.pidProfiles
      decode := fun bytes s =>
        ((PidProfile.schema.vector pidProfileCount).wire.read bytes).map fun v => { s with pidProfiles := v } }
  | rateProfiles =>
    { id := .rateProfiles
      reset := fun _ s => { s with rateProfiles := s.rateProfiles.map RateProfile.reset }
      encode := fun size s => (RateProfile.schema.vector rateProfileCount).wire.putInto size s.rateProfiles
      decode := fun bytes s =>
        ((RateProfile.schema.vector rateProfileCount).wire.read bytes).map fun v => { s with rateProfiles := v } }

/-- every group, in the order of their numbers -/
def groups : List Group := GroupId.list.map GroupId.group

end FlightStore
