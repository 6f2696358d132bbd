/-
Positioning and what happens when the radio link is lost.
-/
import FlightStore.Schema

namespace FlightStore

inductive GpsProvider where
  | nmea
  | ublox
  /-- positions come from a companion device instead of a serial port -/
  | msp
deriving DecidableEq, Repr

instance : Choice GpsProvider where
  all := [.nmea, .ublox, .msp]
  name
    | .nmea => "Nmea"
    | .ublox => "Ublox"
    | .msp => "Msp"

structure Gps where
  provider : GpsProvider := .ublox
  sbasMode : UInt8 := 0
  autoBaud : Bool := false
deriving DecidableEq

open Schema in
def Gps.schema : Schema Gps :=
  record (field "provider" choice <| field "sbas_mode" u8 <| field "auto_baud" bool done)
    (fun g => (g.provider, g.sbasMode, g.autoBaud, ())) (fun (provider, sbas, baud, _) => ⟨provider, sbas, baud⟩)

inductive FailsafeProcedure where
  | autoLanding
  | drop
  | gpsRescue
deriving DecidableEq, Repr

instance : Choice FailsafeProcedure where
  all := [.autoLanding, .drop, .gpsRescue]
  name
    | .autoLanding => "AutoLanding"
    | .drop => "Drop"
    | .gpsRescue => "GpsRescue"

structure Failsafe where
  procedure : FailsafeProcedure := .drop
  /-- time without a link before it starts (tenths of a second) -/
  delay : UInt8 := 4
  /-- duration of the landing (s) -/
  landingTime : UInt8 := 60
  /-- throttle while landing (µs) -/
  throttle : UInt16 := 1000
deriving DecidableEq

open Schema in
def Failsafe.schema : Schema Failsafe :=
  record (field "procedure" choice <| field "delay" u8 <| field "landing_time" u8 <| field "throttle" u16 done)
    (fun f => (f.procedure, f.delay, f.landingTime, f.throttle, ()))
    (fun (procedure, delay, landing, throttle, _) => ⟨procedure, delay, landing, throttle⟩)

end FlightStore
