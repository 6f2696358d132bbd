/-
Features: what a pilot can switch on and off. Their bits are part of the storage format.

Five of them are radio inputs, of which at most one may be enabled. `radioPriority` is the order in which they win
against each other. Software SPI needs the pins of the inputs and the port in `softSpiExcluded`.
-/
import FlightStore.FlagSet.Basic

namespace FlightStore

inductive Feature where
  /-- radio input over a sum signal -/
  | rxPpm
  | inflightAccCal
  /-- radio input over a serial protocol -/
  | rxSerial
  | motorStop
  | servoTilt
  | softSerial
  | gps
  | rangefinder
  | telemetry
  /-- reversible motors -/
  | threeD
  /-- radio input over one pulse signal for each channel -/
  | rxParallelPwm
  /-- radio input from a companion device -/
  | rxMsp
  | rssiAdc
  | ledStrip
  | dashboard
  | osd
  | channelForwarding
  | transponder
  | airmode
  /-- radio input over a radio on the board -/
  | rxSpi
  | softSpi
  | escSensor
  | antiGravity
  | dynamicFilter
deriving DecidableEq, Repr

namespace Feature

/-- every feature, in the order of its bits -/
def list : List Feature :=
  [.rxPpm, .inflightAccCal, .rxSerial, .motorStop, .servoTilt, .softSerial, .gps, .rangefinder, .telemetry, .threeD,
    .rxParallelPwm, .rxMsp, .rssiAdc, .ledStrip, .dashboard, .osd, .channelForwarding, .transponder, .airmode, .rxSpi,
    .softSpi, .escSensor, .antiGravity, .dynamicFilter]

def name : Feature → String
  | rxPpm => "RX_PPM"
  | inflightAccCal => "INFLIGHT_ACC_CAL"
  | rxSerial => "RX_SERIAL"
  | motorStop => "MOTOR_STOP"
  | servoTilt => "SERVO_TILT"
  | softSerial => "SOFTSERIAL"
  | gps => "GPS"
  | rangefinder => "RANGEFINDER"
  | telemetry => "TELEMETRY"
  | threeD => "THREE_D"
  | rxParallelPwm => "RX_PARALLEL_PWM"
  | rxMsp => "RX_MSP"
  | rssiAdc => "RSSI_ADC"
  | ledStrip => "LED_STRIP"
  | dashboard => "DASHBOARD"
  | osd => "OSD"
  | channelForwarding => "CHANNEL_FORWARDING"
  | transponder => "TRANSPONDER"
  | airmode => "AIRMODE"
  | rxSpi => "RX_SPI"
  | softSpi => "SOFTSPI"
  | escSensor => "ESC_SENSOR"
  | antiGravity => "ANTI_GRAVITY"
  | dynamicFilter => "DYNAMIC_FILTER"

def bit : Feature → Nat
  | rxPpm => 0
  | inflightAccCal => 2
  | rxSerial => 3
  | motorStop => 4
  | servoTilt => 5
  | softSerial => 6
  | gps => 7
  | rangefinder => 9
  | telemetry => 10
  | threeD => 12
  | rxParallelPwm => 13
  | rxMsp => 14
  | rssiAdc => 15
  | ledStrip => 16
  | dashboard => 17
  | osd => 18
  | channelForwarding => 20
  | transponder => 21
  | airmode => 22
  | rxSpi => 25
  | softSpi => 26
  | escSensor => 27
  | antiGravity => 28
  | dynamicFilter => 29

end Feature

instance : Flag Feature where
  all := Feature.list
  name := Feature.name
  width := 32
  bit := Feature.bit

abbrev FeatureSet := FlagSet Feature

/-- the radio inputs, the winning ones first -/
def radioPriority : List Feature := [.rxPpm, .rxMsp, .rxSerial, .rxSpi, .rxParallelPwm]

/-- every radio input -/
def radioInputs : FeatureSet := .ofList radioPriority

/-- what shares its pins with software SPI -/
def softSpiExcluded : FeatureSet := .ofList [.rxPpm, .rxParallelPwm, .softSerial]

/-- the radio input of a set, if it has exactly one -/
def radioInput? (s : FeatureSet) : Option Feature := radioPriority.find? (fun f => .only f = s ∩ radioInputs)

end FlightStore
