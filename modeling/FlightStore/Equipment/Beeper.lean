/-
The beeper: the events it reacts to and which of them are silenced.
-/
import FlightStore.Schema

namespace FlightStore

inductive BeeperEvent where
  | gyroCalibrated
  | rxLost
  | rxLostLanding
  | disarming
  | arming
  | armingGpsFix
  | batteryCriticallyLow
  | batteryLow
  | gpsStatus
  | rxSet
  | accCalibration
  | accCalibrationFail
  | ready
  | multiBeeps
  | disarmRepeat
  | armed
  | systemInit
  | usb
  | blackboxErase
  | crashFlipMode
  | cameraConnectionOpen
  | cameraConnectionClose
  | smoothingInitFail
deriving DecidableEq, Repr

namespace BeeperEvent

/-- every event, in the order of its bits -/
def list : List BeeperEvent :=
  [.gyroCalibrated, .rxLost, .rxLostLanding, .disarming, .arming, .armingGpsFix, .batteryCriticallyLow, .batteryLow,
    .gpsStatus, .rxSet, .accCalibration, .accCalibrationFail, .ready, .multiBeeps, .disarmRepeat, .armed, .systemInit,
    .usb, .blackboxErase, .crashFlipMode, .cameraConnectionOpen, .cameraConnectionClose, .smoothingInitFail]

def name : BeeperEvent → String
  | gyroCalibrated => "GYRO_CALIBRATED"
  | rxLost => "RX_LOST"
  | rxLostLanding => "RX_LOST_LANDING"
  | disarming => "DISARMING"
  | arming => "ARMING"
  | armingGpsFix => "ARMING_GPS_FIX"
  | batteryCriticallyLow => "BAT_CRIT_LOW"
  | batteryLow => "BAT_LOW"
  | gpsStatus => "GPS_STATUS"
  | rxSet => "RX_SET"
  | accCalibration => "ACC_CALIBRATION"
  | accCalibrationFail => "ACC_CALIBRATION_FAIL"
  | ready => "READY_BEEP"
  | multiBeeps => "MULTI_BEEPS"
  | disarmRepeat => "DISARM_REPEAT"
  | armed => "ARMED"
  | systemInit => "SYSTEM_INIT"
  | usb => "USB"
  | blackboxErase => "BLACKBOX_ERASE"
  | crashFlipMode => "CRASH_FLIP_MODE"
  | cameraConnectionOpen => "CAM_CONNECTION_OPEN"
  | cameraConnectionClose => "CAM_CONNECTION_CLOSE"
  | smoothingInitFail => "RC_SMOOTHING_INIT_FAIL"

/-- the events own the lowest bits, in their order -/
def bit (e : BeeperEvent) : Nat := list.idxOf e

end BeeperEvent

instance : Flag BeeperEvent where
  all := BeeperEvent.list
  name := BeeperEvent.name
  width := 32
  bit := BeeperEvent.bit

abbrev BeeperEvents := FlagSet BeeperEvent

/-- events for which the beacon of the motors can be switched off -/
def beaconEvents : BeeperEvents := .ofList [.rxLost, .rxSet]

/-- the beacon has tones one to five -/
def beaconToneMin : UInt8 := 1

def beaconToneMax : UInt8 := 5

structure Beeper where
  /-- silenced events -/
  off : BeeperEvents := .empty
  /-- events without beacon -/
  beaconOff : BeeperEvents := .empty
  beaconTone : UInt8 := beaconToneMin
deriving DecidableEq

open Schema in
def Beeper.schema : Schema Beeper :=
  record (field "beeper_off_flags" mask <| field "dshot_beacon_off_flags" mask <| field "dshot_beacon_tone" u8 done)
    (fun b => (b.off, b.beaconOff, b.beaconTone, ())) (fun (off, beaconOff, tone, _) => ⟨off, beaconOff, tone⟩)

end FlightStore
