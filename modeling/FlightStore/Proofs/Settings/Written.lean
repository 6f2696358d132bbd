/-
The written form of every settings type.

Each schema reads what it writes as JSON: the fields of a record have different names, and a value that may be missing is
written as a name, never as a `null`. A proof follows the fields of its schema. All together are the settings, which are
therefore read back from their text (`Settings.ofJson?_toJson`).
-/
import FlightStore.Proofs.Json.Forms
import FlightStore.Settings.Basic

namespace FlightStore

open Json Json.Form

namespace Schema

variable {α β γ : Type} {s : Schema β} {fs : Fields γ} {names : List String}

theorem json_done : done.json.Lawful [] := Json.Fields.lawful_nil

theorem json_field {name : String} (hs : s.json.Lawful) (hfs : fs.json.Lawful names) :
    (field name s fs).json.Lawful (name :: names) := Json.Fields.Lawful.cons hs hfs

theorem json_fieldOr {name : String} {absent : β} (hs : s.json.Lawful) (hfs : fs.json.Lawful names) :
    (fieldOr name absent s fs).json.Lawful (name :: names) := Json.Fields.Lawful.cons hs hfs

theorem json_record {split : α → γ} {build : γ → α} (h : fs.json.Lawful names) (hnodup : names.Nodup)
    (hback : ∀ a, build (split a) = a) : (record fs split build).json.Lawful := lawful_record h hnodup hback

end Schema

open Schema

/-! ## Closed choices -/

instance : NamedChoice ConfigurationState := ⟨fun c => by cases c <;> rfl⟩

instance : NamedChoice SchedulerTuning := ⟨fun t => by cases t <;> rfl⟩

instance : NamedChoice PortName := ⟨fun p => by cases p <;> rfl⟩

instance : NamedChoice SmoothedChannels := ⟨fun c => by cases c <;> rfl⟩

instance : NamedChoice MotorProtocol := ⟨fun p => by cases p <;> rfl⟩

instance : NamedChoice Bitbang := ⟨fun b => by cases b <;> rfl⟩

instance : NamedChoice HardwareLowpass := ⟨fun l => by cases l <;> rfl⟩

instance : NamedChoice GpsProvider := ⟨fun p => by cases p <;> rfl⟩

instance : NamedChoice FailsafeProcedure := ⟨fun p => by cases p <;> rfl⟩

instance : NamedChoice Mode := ⟨fun m => by cases m <;> rfl⟩

instance : NamedChoice BlackboxDevice := ⟨fun d => by cases d <;> rfl⟩

/-! ## Craft, features, ports and receiver -/

theorem Pilot.json_lawful : Pilot.schema.json.Lawful :=
  json_record (json_field lawful_boundedText <| json_field lawful_boundedText json_done)
    (by decide) fun _ => rfl

theorem SystemState.json_lawful : SystemState.schema.json.Lawful :=
  json_record
    (json_field lawful_u8 <| json_field lawful_u8 <| json_field lawful_choice <| json_field lawful_choice <|
      json_field lawful_boundedText <| json_field lawful_u8 <| json_field lawful_u8 <|
      json_field lawful_bool json_done)
    (by decide) fun _ => rfl

theorem SerialPort.json_lawful : SerialPort.schema.json.Lawful :=
  json_record (json_field lawful_choice <| json_field lawful_flags json_done)
    (by decide) fun _ => rfl

theorem SerialPorts.json_lawful : SerialPorts.schema.json.Lawful :=
  json_record
    (json_field (SerialPort.json_lawful.boundedList maxSerialPorts) <| json_field lawful_u8 json_done)
    (by decide) fun _ => rfl

theorem Receiver.json_lawful : Receiver.schema.json.Lawful :=
  json_record
    (json_field lawful_u8 <| json_field lawful_bool <| json_field lawful_bool <| json_field lawful_choice <|
      json_field lawful_u16 <| json_field lawful_u16 <| json_field lawful_u16 json_done)
    (by decide) fun _ => rfl

/-! ## Motors and loops -/

theorem MotorOutput.json_lawful : MotorOutput.schema.json.Lawful :=
  json_record
    (json_field lawful_u16 <| json_field lawful_choice <| json_field lawful_bool <| json_field lawful_bool <|
      json_field lawful_bool <| json_field lawful_choice json_done)
    (by decide) fun _ => rfl

theorem Motor.json_lawful : Motor.schema.json.Lawful :=
  json_record
    (json_field MotorOutput.json_lawful <| json_field lawful_u16 <| json_field lawful_u16 <|
      json_field lawful_u16 <| json_field lawful_u8 json_done)
    (by decide) fun _ => rfl

theorem Gyro.json_lawful : Gyro.schema.json.Lawful :=
  json_record
    (json_field lawful_choice <| json_field lawful_u8 <| json_field lawful_u16 <| json_field lawful_u16 <|
      json_field lawful_u16 <| json_field lawful_u16 <| json_field lawful_u16 <| json_field lawful_u16 <|
      json_field lawful_u16 <| json_field lawful_u16 json_done)
    (by decide) fun _ => rfl

theorem PidLoop.json_lawful : PidLoop.schema.json.Lawful :=
  json_record (json_field lawful_u8 json_done) (by decide) fun _ => rfl

theorem Accelerometer.json_lawful : Accelerometer.schema.json.Lawful :=
  json_record (json_field (lawful_i16.vector 3) <| json_field lawful_u16 json_done) (by decide) fun _ => rfl

theorem ThrottleCorrection.json_lawful : ThrottleCorrection.schema.json.Lawful :=
  json_record (json_field lawful_u16 <| json_field lawful_u8 json_done) (by decide) fun _ => rfl

/-! ## Rescue, modes and equipment -/

theorem Gps.json_lawful : Gps.schema.json.Lawful :=
  json_record (json_field lawful_choice <| json_field lawful_u8 <| json_field lawful_bool json_done)
    (by decide) fun _ => rfl

theorem Failsafe.json_lawful : Failsafe.schema.json.Lawful :=
  json_record
    (json_field lawful_choice <| json_field lawful_u8 <| json_field lawful_u8 <| json_field lawful_u16 json_done)
    (by decide) fun _ => rfl

theorem ChannelRange.json_lawful : ChannelRange.schema.json.Lawful :=
  json_record (json_field lawful_u8 <| json_field lawful_u8 json_done) (by decide) fun _ => rfl

theorem ModeCondition.json_lawful : ModeCondition.schema.json.Lawful :=
  json_record
    (json_field lawful_choice <| json_field lawful_u8 <| json_field ChannelRange.json_lawful <|
      json_fieldOr (lawful_choice.optional nofun) json_done)
    (by decide) fun _ => rfl

theorem ModeConditions.json_lawful : ModeConditions.schema.json.Lawful :=
  ModeCondition.json_lawful.boundedList maxModeConditions

theorem Beeper.json_lawful : Beeper.schema.json.Lawful :=
  json_record (json_field lawful_mask <| json_field lawful_mask <| json_field lawful_u8 json_done)
    (by decide) fun _ => rfl

theorem Blackbox.json_lawful : Blackbox.schema.json.Lawful :=
  json_record (json_field lawful_choice <| json_field lawful_u8 <| json_field lawful_bool json_done)
    (by decide) fun _ => rfl

theorem Vtx.json_lawful : Vtx.schema.json.Lawful :=
  json_record
    (json_field lawful_u8 <| json_field lawful_u8 <| json_field lawful_u8 <| json_field lawful_u16 <|
      json_field lawful_u16 <| json_field lawful_bool json_done)
    (by decide) fun _ => rfl

theorem VtxTable.json_lawful : VtxTable.schema.json.Lawful :=
  json_record (json_field lawful_u8 <| json_field lawful_u8 <| json_field lawful_u8 json_done)
    (by decide) fun _ => rfl

/-! ## Profiles -/

theorem Axes.json_lawful {α : Type} {s : Schema α} (h : s.json.Lawful) : (Axes.schema s).json.Lawful :=
  (h.vector 3).map fun _ => rfl

theorem PidGains.json_lawful : PidGains.schema.json.Lawful :=
  json_record
    (json_field lawful_u8 <| json_field lawful_u8 <| json_field lawful_u8 <| json_field lawful_u16 json_done)
    (by decide) fun _ => rfl

theorem PidProfile.json_lawful : PidProfile.schema.json.Lawful :=
  json_record
    (json_field lawful_boundedText <| json_field (Axes.json_lawful PidGains.json_lawful) <|
      json_field (Axes.json_lawful lawful_u8) <| json_field lawful_u16 <| json_field lawful_u16 <|
      json_field lawful_u16 <| json_field lawful_u16 <| json_field lawful_u16 <| json_field lawful_u16 <|
      json_field lawful_u8 <| json_field lawful_i8 <| json_field lawful_u8 <| json_field lawful_u16 json_done)
    (by decide) fun _ => rfl

theorem RateProfile.json_lawful : RateProfile.schema.json.Lawful :=
  json_record
    (json_field lawful_boundedText <| json_field (Axes.json_lawful lawful_u8) <|
      json_field (Axes.json_lawful lawful_u8) <| json_field (Axes.json_lawful lawful_u8) <| json_field lawful_u8 <|
      json_field lawful_u8 <| json_field lawful_u8 <| json_field lawful_u16 json_done)
    (by decide) fun _ => rfl

/-! ## Settings -/

theorem Settings.json_lawful : schema.json.Lawful :=
  json_record
    (json_field Pilot.json_lawful <| json_field SystemState.json_lawful <| json_field lawful_flags <|
      json_field SerialPorts.json_lawful <| json_field Receiver.json_lawful <| json_field Motor.json_lawful <|
      json_field Gyro.json_lawful <| json_field PidLoop.json_lawful <| json_field Accelerometer.json_lawful <|
      json_field ThrottleCorrection.json_lawful <| json_field Gps.json_lawful <| json_field Failsafe.json_lawful <|
      json_field ModeConditions.json_lawful <| json_field Beeper.json_lawful <| json_field Blackbox.json_lawful <|
      json_field Vtx.json_lawful <| json_field VtxTable.json_lawful <|
      json_field (PidProfile.json_lawful.vector pidProfileCount) <|
      json_field (RateProfile.json_lawful.vector rateProfileCount) json_done)
    (by decide) fun _ => rfl

end FlightStore
