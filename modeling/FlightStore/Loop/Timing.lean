/-
Timing of the control loop, in whole nanoseconds.

A sensor delivers a sample at a fixed interval. The gyro loop runs at every n-th sample and the control loop at every
m-th turn of the gyro loop. A motor protocol takes a new command only after its shortest interval.
-/
import FlightStore.Loop.Gyro
import FlightStore.Motors.Motor

namespace FlightStore

/-- the gyro sensor that a driver has found -/
inductive SensorModel where
  | none
  | mpu6000
  | mpu6500
  | mpu9250
  | icm20601
  | icm20602
  | icm20608g
  | icm20649
  | icm20689
  | icm42605
  | icm42688p
  | bmi160
  | bmi270
  | lsm6dso
deriving DecidableEq, Repr

instance : Choice SensorModel where
  all := [.none, .mpu6000, .mpu6500, .mpu9250, .icm20601, .icm20602, .icm20608g, .icm20649, .icm20689, .icm42605,
    .icm42688p, .bmi160, .bmi270, .lsm6dso]
  name
    | .none => "None"
    | .mpu6000 => "Mpu6000"
    | .mpu6500 => "Mpu6500"
    | .mpu9250 => "Mpu9250"
    | .icm20601 => "Icm20601"
    | .icm20602 => "Icm20602"
    | .icm20608g => "Icm20608g"
    | .icm20649 => "Icm20649"
    | .icm20689 => "Icm20689"
    | .icm42605 => "Icm42605"
    | .icm42688p => "Icm42688p"
    | .bmi160 => "Bmi160"
    | .bmi270 => "Bmi270"
    | .lsm6dso => "Lsm6dso"

namespace Timing

def nanosPerSecond : Nat := 1000000000

/-- the gyro loop has to be at least this fast for the dynamic filter -/
def dynamicFilterLimit : Nat := 500000

/-- largest denominator of the gyro loop -/
def maxSyncDenom : UInt8 := 32

/-- largest denominator of the control loop -/
def maxProcessDenom : UInt8 := 16

/-- interval between two samples of a sensor -/
def samplingInterval : SensorModel → HardwareLowpass → Nat
  | .icm20649, .normal => nanosPerSecond / 9000
  | .bmi160, .normal => 312500
  | _, .normal => 125000
  | .icm20649, .oneKhzSample => nanosPerSecond / 1100
  | _, .oneKhzSample => 1000000

/-- shortest interval between two commands of a protocol -/
def updateRestriction : MotorProtocol → Nat
  | .standard => nanosPerSecond / brushlessPulseRate.toNat
  | .oneshot125 => 500000
  | .oneshot42 => 100000
  | .dshot150 => 250000
  | .dshot300 => 100000
  | _ => 31250

/-- the pulse rate (Hz) of an interval, rounded to the nearest and bounded by what a setting can hold; of the interval
only 64 bits count -/
def maxUpdateRate (restriction : Nat) : UInt16 :=
  let nanos := max restriction 1 % UInt64.size
  UInt16.ofNat (min ((nanosPerSecond + nanos / 2) / nanos) 65535)

/-- duration of one turn of the control loop -/
def controlLoopPeriod (sampling : Nat) (syncDenom processDenom : UInt8) : Nat :=
  sampling * (syncDenom.toNat * processDenom.toNat)

/-- the smallest denominator with which the control loop is not faster than the restriction, or else the largest -/
def minProcessDenom (restriction sampling : Nat) (syncDenom : UInt8) : UInt8 :=
  let gyroPeriod := max (sampling * max syncDenom.toNat 1) 1
  UInt8.ofNat (min (max ((restriction + gyroPeriod - 1) / gyroPeriod) 1) maxProcessDenom.toNat)

end Timing
end FlightStore
