/-
Capabilities: what the hardware of a board can do, and which feature needs which of them.

A feature whose capability is missing has to stay off: `unsupported` is the set of these features.
-/
import FlightStore.Radio.Feature

namespace FlightStore

inductive Capability where
  | ppm
  | serialRx
  | pwmRx
  | rxMsp
  | rxSpi
  | softSerial
  | softSpi
  | rangefinder
  | telemetry
  | ledStrip
  | ledStripStatusMode
  | dashboard
  | osd
  | servos
  | transponder
  | escSensor
  /-- analysis of gyro noise, needed by the dynamic filter -/
  | gyroDataAnalyse
  | adc
  | gps
  | gpsRescue
  | dshotTelemetry
  | flashFs
  | sdCard
  | acc
  | vtxTable
deriving DecidableEq, Repr

namespace Capability

/-- every capability, in the order of its bits -/
def list : List Capability :=
  [.ppm, .serialRx, .pwmRx, .rxMsp, .rxSpi, .softSerial, .softSpi, .rangefinder, .telemetry, .ledStrip,
    .ledStripStatusMode, .dashboard, .osd, .servos, .transponder, .escSensor, .gyroDataAnalyse, .adc, .gps, .gpsRescue,
    .dshotTelemetry, .flashFs, .sdCard, .acc, .vtxTable]

def name : Capability → String
  | ppm => "PPM"
  | serialRx => "SERIAL_RX"
  | pwmRx => "PWM_RX"
  | rxMsp => "RX_MSP"
  | rxSpi => "RX_SPI"
  | softSerial => "SOFTSERIAL"
  | softSpi => "SOFTSPI"
  | rangefinder => "RANGEFINDER"
  | telemetry => "TELEMETRY"
  | ledStrip => "LED_STRIP"
  | ledStripStatusMode => "LED_STRIP_STATUS_MODE"
  | dashboard => "DASHBOARD"
  | osd => "OSD"
  | servos => "SERVOS"
  | transponder => "TRANSPONDER"
  | escSensor => "ESC_SENSOR"
  | gyroDataAnalyse => "GYRO_DATA_ANALYSE"
  | adc => "ADC"
  | gps => "GPS"
  | gpsRescue => "GPS_RESCUE"
  | dshotTelemetry => "DSHOT_TELEMETRY"
  | flashFs => "FLASHFS"
  | sdCard => "SDCARD"
  | acc => "ACC"
  | vtxTable => "VTX_TABLE"

def bit : Capability → Nat
  | ppm => 0
  | serialRx => 1
  | pwmRx => 2
  | rxMsp => 3
  | rxSpi => 4
  | softSerial => 5
  | softSpi => 6
  | rangefinder => 7
  | telemetry => 8
  | ledStrip => 9
  | ledStripStatusMode => 10
  | dashboard => 11
  | osd => 12
  | servos => 13
  | transponder => 14
  | escSensor => 15
  | gyroDataAnalyse => 16
  | adc => 17
  | gps => 18
  | gpsRescue => 19
  | dshotTelemetry => 20
  | flashFs => 21
  | sdCard => 22
  | acc => 23
  | vtxTable => 24

end Capability

instance : Flag Capability where
  all := Capability.list
  name := Capability.name
  width := 32
  bit := Capability.bit

abbrev Capabilities := FlagSet Capability

/-- the capability that a feature needs, if any -/
def Feature.needs : Feature → Option Capability
  | rxPpm => some .ppm
  | rxSerial => some .serialRx
  | rxParallelPwm => some .pwmRx
  | rxMsp => some .rxMsp
  | rxSpi => some .rxSpi
  | softSerial => some .softSerial
  | softSpi => some .softSpi
  | rangefinder => some .rangefinder
  | telemetry => some .telemetry
  | ledStrip => some .ledStrip
  | dashboard => some .dashboard
  | osd => some .osd
  | servoTilt => some .servos
  | channelForwarding => some .servos
  | transponder => some .transponder
  | escSensor => some .escSensor
  | dynamicFilter => some .gyroDataAnalyse
  | rssiAdc => some .adc
  | gps => some .gps
  | inflightAccCal | motorStop | threeD | airmode | antiGravity => none

/-- whether a board with these capabilities lacks what a feature needs -/
def Feature.lacking (caps : Capabilities) (f : Feature) : Bool :=
  match f.needs with
  | some c => decide (c ∉ caps)
  | none => false

/-- the features that boards with these capabilities have to keep off -/
def unsupported (caps : Capabilities) : FeatureSet := .ofList (Feature.list.filter (Feature.lacking caps))

/-- whether no feature of a set is unsupported -/
def Supports (caps : Capabilities) (s : FeatureSet) : Prop := ¬ (unsupported caps).Meets s

instance (caps : Capabilities) (s : FeatureSet) : Decidable (Supports caps s) :=
  inferInstanceAs (Decidable (¬ (unsupported caps).Meets s))

end FlightStore
