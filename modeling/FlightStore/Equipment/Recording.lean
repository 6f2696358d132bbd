/-
The flight recorder and the video transmitter.
-/
import FlightStore.Schema

namespace FlightStore

inductive BlackboxDevice where
  | none
  | flash
  | sdCard
  | serial
deriving DecidableEq, Repr

instance : Choice BlackboxDevice where
  all := [.none, .flash, .sdCard, .serial]
  name
    | .none => "None"
    | .flash => "Flash"
    | .sdCard => "Sdcard"
    | .serial => "Serial"

structure Blackbox where
  device : BlackboxDevice := .flash
  /-- every 2^n-th turn of the control loop is recorded -/
  sampleRate : UInt8 := 1
  recordAcc : Bool := true
deriving DecidableEq

open Schema in
def Blackbox.schema : Schema Blackbox :=
  record (field "device" choice <| field "sample_rate" u8 <| field "record_acc" bool done)
    (fun b => (b.device, b.sampleRate, b.recordAcc, ())) (fun (device, rate, acc, _) => ⟨device, rate, acc⟩)

/-- band, channel and power count from one; band 0 means that the frequency is set directly -/
structure Vtx where
  band : UInt8 := 0
  channel : UInt8 := 0
  power : UInt8 := 0
  /-- frequency (MHz) -/
  frequency : UInt16 := 0
  pitModeFrequency : UInt16 := 0
  lowPowerDisarm : Bool := false
deriving DecidableEq

open Schema in
def Vtx.schema : Schema Vtx :=
  record
    (field "band" u8 <| field "channel" u8 <| field "power" u8 <| field "freq" u16 <| field "pit_mode_freq" u16 <|
      field "low_power_disarm" bool done)
    (fun v => (v.band, v.channel, v.power, v.frequency, v.pitModeFrequency, v.lowPowerDisarm, ()))
    (fun (band, channel, power, freq, pit, low, _) => ⟨band, channel, power, freq, pit, low⟩)

/-- size of the table of bands, channels and power levels -/
structure VtxTable where
  bands : UInt8 := 5
  channels : UInt8 := 8
  powerLevels : UInt8 := 5
deriving DecidableEq

open Schema in
def VtxTable.schema : Schema VtxTable :=
  record (field "bands" u8 <| field "channels" u8 <| field "power_levels" u8 done)
    (fun t => (t.bands, t.channels, t.powerLevels, ())) (fun (bands, channels, levels, _) => ⟨bands, channels, levels⟩)

end FlightStore
