/-
Receiver settings: signal strength, channel limits and smoothing of the setpoints.
-/
import FlightStore.Schema

namespace FlightStore

/-- the channels whose setpoints are smoothed: roll (R), pitch (P), yaw (Y), throttle (T) -/
inductive SmoothedChannels where
  | rp
  | rpy
  | rpyt
  | t
  | rpt
deriving DecidableEq, Repr

namespace SmoothedChannels

instance : Choice SmoothedChannels where
  all := [.rp, .rpy, .rpyt, .t, .rpt]
  name
    | rp => "Rp"
    | rpy => "Rpy"
    | rpyt => "Rpyt"
    | t => "T"
    | rpt => "Rpt"

def includesYaw : SmoothedChannels → Bool
  | rpy | rpyt => true
  | _ => false

def includesThrottle : SmoothedChannels → Bool
  | rpyt | t | rpt => true
  | _ => false

end SmoothedChannels

structure Receiver where
  /-- channel that carries the signal strength, 0 for none -/
  rssiChannel : UInt8 := 0
  /-- signal strength from the frame errors of a serial receiver -/
  rssiFromFrameErrors : Bool := false
  smoothing : Bool := true
  smoothedChannels : SmoothedChannels := .rpyt
  midPulse : UInt16 := 1500
  minCheck : UInt16 := 1050
  maxCheck : UInt16 := 1900
deriving DecidableEq

open Schema in
def Receiver.schema : Schema Receiver :=
  record
    (field "rssi_channel" u8 <| field "rssi_src_frame_errors" bool <| field "rc_smoothing" bool <|
      field "rc_interpolation_channels" choice <| field "midrc" u16 <| field "mincheck" u16 <| field "maxcheck" u16 done)
    (fun r => (r.rssiChannel, r.rssiFromFrameErrors, r.smoothing, r.smoothedChannels, r.midPulse, r.minCheck, r.maxCheck, ()))
    (fun (channel, frameErrors, smoothing, channels, mid, lo, hi, _) =>
      ⟨channel, frameErrors, smoothing, channels, mid, lo, hi⟩)

end FlightStore
