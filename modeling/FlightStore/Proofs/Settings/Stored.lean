/-
The stored form of every settings type.

Each schema is lawful: every value is read back from its stored form, and the form has a largest size. A proof follows
the fields of its schema. `GroupId.lawful` gathers the nineteen groups, `GroupId.maxSize` their largest sizes.
-/
import FlightStore.Proofs.Settings.Parts
import FlightStore.Proofs.Wire.Codec

namespace FlightStore

open Wire Codec

namespace Schema

variable {α β γ : Type} {m n : Nat} {s : Schema β} {fs : Fields γ}

theorem lawful_done : done.wire.Lawful 0 := lawful_unit

theorem lawful_field {name : String} (hs : s.wire.Lawful m) (hfs : fs.wire.Lawful n) :
    (field name s fs).wire.Lawful (m + n) := hs.pair hfs

theorem lawful_map {split : α → β} {build : β → α} (h : s.wire.Lawful m) (hback : ∀ a, build (split a) = a) :
    (s.map split build).wire.Lawful m := h.map hback

theorem lawful_vector (h : s.wire.Lawful m) (k : Nat) : (s.vector k).wire.Lawful (k * m) := h.vector k

/-- a field that an object may leave out is stored like any other -/
theorem lawful_fieldOr {name : String} {absent : β} (hs : s.wire.Lawful m) (hfs : fs.wire.Lawful n) :
    (fieldOr name absent s fs).wire.Lawful (m + n) := hs.pair hfs

theorem lawful_record {split : α → γ} {build : γ → α} (h : fs.wire.Lawful m) (hback : ∀ a, build (split a) = a)
    (hsize : m ≤ n) : (record fs split build).wire.Lawful n := (h.map hback).mono hsize

end Schema

open Schema

/-! ## Closed choices -/

instance : LawfulChoice ConfigurationState := ⟨fun c => by cases c <;> decide, by decide⟩

instance : LawfulChoice SchedulerTuning := ⟨fun t => by cases t <;> decide, by decide⟩

instance : LawfulChoice PortName := ⟨fun p => by cases p <;> decide, by decide⟩

instance : LawfulChoice SmoothedChannels := ⟨fun c => by cases c <;> decide, by decide⟩

instance : LawfulChoice MotorProtocol := ⟨fun p => by cases p <;> decide, by decide⟩

instance : LawfulChoice Bitbang := ⟨fun b => by cases b <;> decide, by decide⟩

instance : LawfulChoice HardwareLowpass := ⟨fun l => by cases l <;> decide, by decide⟩

instance : LawfulChoice GpsProvider := ⟨fun p => by cases p <;> decide, by decide⟩

instance : LawfulChoice FailsafeProcedure := ⟨fun p => by cases p <;> decide, by decide⟩

instance : LawfulChoice Mode := ⟨fun m => by cases m <;> decide, by decide⟩

instance : LawfulChoice BlackboxDevice := ⟨fun d => by cases d <;> decide, by decide⟩

/-! ## Craft, features, ports and receiver -/

theorem Pilot.lawful : Pilot.schema.wire.Lawful 34 :=
  lawful_record (lawful_field (lawful_boundedText (by decide)) <| lawful_field (lawful_boundedText (by decide)) lawful_done)
    (fun _ => rfl) (by decide)

theorem SystemState.lawful : SystemState.schema.wire.Lawful 12 :=
  lawful_record
    (lawful_field lawful_u8 <| lawful_field lawful_u8 <| lawful_field lawful_choice <| lawful_field lawful_choice <|
      lawful_field (lawful_boundedText (by decide)) <| lawful_field lawful_u8 <| lawful_field lawful_u8 <|
      lawful_field lawful_bool lawful_done)
    (fun _ => rfl) (by decide)

theorem FeatureSet.lawful : (Schema.flags : Schema FeatureSet).wire.Lawful 5 := lawful_flags (by decide) (by decide)

theorem SerialPort.lawful : SerialPort.schema.wire.Lawful 4 :=
  lawful_record (lawful_field lawful_choice <| lawful_field (lawful_flags (k := 2) (by decide) (by decide)) lawful_done)
    (fun _ => rfl) (by decide)

theorem SerialPorts.lawful : SerialPorts.schema.wire.Lawful 50 :=
  lawful_record
    (lawful_field (SerialPort.lawful.boundedList (by decide)) <| lawful_field lawful_u8 lawful_done)
    (fun _ => rfl) (by decide)

theorem Receiver.lawful : Receiver.schema.wire.Lawful 13 :=
  lawful_record
    (lawful_field lawful_u8 <| lawful_field lawful_bool <| lawful_field lawful_bool <| lawful_field lawful_choice <|
      lawful_field lawful_u16 <| lawful_field lawful_u16 <| lawful_field lawful_u16 lawful_done)
    (fun _ => rfl) (by decide)

/-! ## Motors and loops -/

theorem MotorOutput.lawful : MotorOutput.schema.wire.Lawful 8 :=
  lawful_record
    (lawful_field lawful_u16 <| lawful_field lawful_choice <| lawful_field lawful_bool <| lawful_field lawful_bool <|
      lawful_field lawful_bool <| lawful_field lawful_choice lawful_done)
    (fun _ => rfl) (by decide)

theorem Motor.lawful : Motor.schema.wire.Lawful 18 :=
  lawful_record
    (lawful_field MotorOutput.lawful <| lawful_field lawful_u16 <| lawful_field lawful_u16 <|
      lawful_field lawful_u16 <| lawful_field lawful_u8 lawful_done)
    (fun _ => rfl) (by decide)

theorem Gyro.lawful : Gyro.schema.wire.Lawful 26 :=
  lawful_record
    (lawful_field lawful_choice <| lawful_field lawful_u8 <| lawful_field lawful_u16 <| lawful_field lawful_u16 <|
      lawful_field lawful_u16 <| lawful_field lawful_u16 <| lawful_field lawful_u16 <| lawful_field lawful_u16 <|
      lawful_field lawful_u16 <| lawful_field lawful_u16 lawful_done)
    (fun _ => rfl) (by decide)

theorem PidLoop.lawful : PidLoop.schema.wire.Lawful 1 :=
  lawful_record (lawful_field lawful_u8 lawful_done) (fun _ => rfl) (by decide)

theorem Accelerometer.lawful : Accelerometer.schema.wire.Lawful 12 :=
  lawful_record (lawful_field (lawful_vector lawful_i16 3) <| lawful_field lawful_u16 lawful_done) (fun _ => rfl) (by decide)

theorem ThrottleCorrection.lawful : ThrottleCorrection.schema.wire.Lawful 4 :=
  lawful_record (lawful_field lawful_u16 <| lawful_field lawful_u8 lawful_done) (fun _ => rfl) (by decide)

/-! ## Rescue, modes and equipment -/

theorem Gps.lawful : Gps.schema.wire.Lawful 3 :=
  lawful_record (lawful_field lawful_choice <| lawful_field lawful_u8 <| lawful_field lawful_bool lawful_done)
    (fun _ => rfl) (by decide)

theorem Failsafe.lawful : Failsafe.schema.wire.Lawful 6 :=
  lawful_record
    (lawful_field lawful_choice <| lawful_field lawful_u8 <| lawful_field lawful_u8 <| lawful_field lawful_u16 lawful_done)
    (fun _ => rfl) (by decide)

theorem ChannelRange.lawful : ChannelRange.schema.wire.Lawful 2 :=
  lawful_record (lawful_field lawful_u8 <| lawful_field lawful_u8 lawful_done) (fun _ => rfl) (by decide)

theorem ModeCondition.lawful : ModeCondition.schema.wire.Lawful 6 :=
  lawful_record
    (lawful_field lawful_choice <| lawful_field lawful_u8 <| lawful_field ChannelRange.lawful <|
      lawful_fieldOr lawful_choice.optional lawful_done)
    (fun _ => rfl) (by decide)

theorem ModeConditions.lawful : ModeConditions.schema.wire.Lawful 121 :=
  (ModeCondition.lawful.boundedList (by decide)).mono (by decide)

theorem Beeper.lawful : Beeper.schema.wire.Lawful 11 :=
  lawful_record
    (lawful_field (lawful_flags (k := 4) (by decide) (by decide)) <|
      lawful_field (lawful_flags (k := 4) (by decide) (by decide)) <| lawful_field lawful_u8 lawful_done)
    (fun _ => rfl) (by decide)

theorem Blackbox.lawful : Blackbox.schema.wire.Lawful 3 :=
  lawful_record (lawful_field lawful_choice <| lawful_field lawful_u8 <| lawful_field lawful_bool lawful_done)
    (fun _ => rfl) (by decide)

theorem Vtx.lawful : Vtx.schema.wire.Lawful 10 :=
  lawful_record
    (lawful_field lawful_u8 <| lawful_field lawful_u8 <| lawful_field lawful_u8 <| lawful_field lawful_u16 <|
      lawful_field lawful_u16 <| lawful_field lawful_bool lawful_done)
    (fun _ => rfl) (by decide)

theorem VtxTable.lawful : VtxTable.schema.wire.Lawful 3 :=
  lawful_record (lawful_field lawful_u8 <| lawful_field lawful_u8 <| lawful_field lawful_u8 lawful_done)
    (fun _ => rfl) (by decide)

/-! ## Profiles -/

theorem Axes.lawful {α : Type} {m : Nat} {s : Schema α} (h : s.wire.Lawful m) : (Axes.schema s).wire.Lawful (3 * m) :=
  lawful_map (lawful_vector h 3) fun _ => rfl

theorem PidGains.lawful : PidGains.schema.wire.Lawful 6 :=
  lawful_record
    (lawful_field lawful_u8 <| lawful_field lawful_u8 <| lawful_field lawful_u8 <| lawful_field lawful_u16 lawful_done)
    (fun _ => rfl) (by decide)

theorem PidProfile.lawful : PidProfile.schema.wire.Lawful 54 :=
  lawful_record
    (lawful_field (lawful_boundedText (by decide)) <| lawful_field (Axes.lawful PidGains.lawful) <|
      lawful_field (Axes.lawful lawful_u8) <| lawful_field lawful_u16 <| lawful_field lawful_u16 <|
      lawful_field lawful_u16 <| lawful_field lawful_u16 <| lawful_field lawful_u16 <| lawful_field lawful_u16 <|
      lawful_field lawful_u8 <| lawful_field lawful_i8 <| lawful_field lawful_u8 <| lawful_field lawful_u16 lawful_done)
    (fun _ => rfl) (by decide)

theorem RateProfile.lawful : RateProfile.schema.wire.Lawful 24 :=
  lawful_record
    (lawful_field (lawful_boundedText (by decide)) <| lawful_field (Axes.lawful lawful_u8) <|
      lawful_field (Axes.lawful lawful_u8) <| lawful_field (Axes.lawful lawful_u8) <| lawful_field lawful_u8 <|
      lawful_field lawful_u8 <| lawful_field lawful_u8 <| lawful_field lawful_u16 lawful_done)
    (fun _ => rfl) (by decide)

/-! ## Groups -/

/-- largest size of the stored form of a group -/
def GroupId.maxSize : GroupId → Nat
  | pilot => 34
  | system => 12
  | features => 5
  | serial => 50
  | rx => 13
  | motor => 18
  | gyro => 26
  | pid => 1
  | accelerometer => 12
  | throttleCorrection => 4
  | gps => 3
  | failsafe => 6
  | modeActivations => 121
  | beeper => 11
  | blackbox => 3
  | vtx => 10
  | vtxTable => 3
  | pidProfiles => 216
  | rateProfiles => 144

/-- **Groups are lawful.** Every value of a group is read back from its stored form, which has a largest size. -/
theorem GroupId.lawful (g : GroupId) : g.part.codec.Lawful g.maxSize := by
  cases g with
  | pilot => exact Pilot.lawful
  | system => exact SystemState.lawful
  | features => exact FeatureSet.lawful
  | serial => exact SerialPorts.lawful
  | rx => exact Receiver.lawful
  | motor => exact Motor.lawful
  | gyro => exact Gyro.lawful
  | pid => exact PidLoop.lawful
  | accelerometer => exact Accelerometer.lawful
  | throttleCorrection => exact ThrottleCorrection.lawful
  | gps => exact Gps.lawful
  | failsafe => exact Failsafe.lawful
  | modeActivations => exact ModeConditions.lawful
  | beeper => exact Beeper.lawful
  | blackbox => exact Blackbox.lawful
  | vtx => exact Vtx.lawful
  | vtxTable => exact VtxTable.lawful
  | pidProfiles => exact lawful_vector PidProfile.lawful pidProfileCount
  | rateProfiles => exact lawful_vector RateProfile.lawful rateProfileCount

end FlightStore
