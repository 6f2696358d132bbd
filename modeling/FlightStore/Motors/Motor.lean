/-
Motor output: the protocol spoken to the speed controllers and the limits of the commands.
-/
import FlightStore.Schema

namespace FlightStore

inductive MotorProtocol where
  /-- pulses of one to two milliseconds -/
  | standard
  | oneshot125
  | oneshot42
  | multishot
  | brushed
  | dshot150
  | dshot300
  | dshot600
  | proshot1000
  | disabled
deriving DecidableEq, Repr

namespace MotorProtocol

instance : Choice MotorProtocol where
  all := [.standard, .oneshot125, .oneshot42, .multishot, .brushed, .dshot150, .dshot300, .dshot600, .proshot1000, .disabled]
  name
    | standard => "Standard"
    | oneshot125 => "Oneshot125"
    | oneshot42 => "Oneshot42"
    | multishot => "Multishot"
    | brushed => "Brushed"
    | dshot150 => "Dshot150"
    | dshot300 => "Dshot300"
    | dshot600 => "Dshot600"
    | proshot1000 => "Proshot1000"
    | disabled => "Disabled"

/-- whether commands are sent as digital frames -/
def isDshot : MotorProtocol → Bool
  | dshot150 | dshot300 | dshot600 | proshot1000 => true
  | _ => false

/-- whether a pulse rate of its own has to respect the shortest interval between commands -/
def limitsUnsyncedRate : MotorProtocol → Bool
  | oneshot125 | oneshot42 | multishot | brushed => true
  | _ => false

end MotorProtocol

/-- output of digital frames by toggling pins -/
inductive Bitbang where
  | off
  | on
  | auto
deriving DecidableEq, Repr

instance : Choice Bitbang where
  all := [.off, .on, .auto]
  name
    | .off => "Off"
    | .on => "On"
    | .auto => "Auto"

/-- fastest pulse rate of brushless controllers (Hz) -/
def brushlessPulseRate : UInt16 := 480

/-- lowest command of brushed motors (µs) -/
def brushedMinCommand : UInt16 := 1000

structure MotorOutput where
  /-- pulse rate when it is not tied to the control loop (Hz) -/
  pulseRate : UInt16 := brushlessPulseRate
  protocol : MotorProtocol := .dshot600
  /-- run the output independently of the control loop -/
  unsynced : Bool := false
  burst : Bool := false
  /-- frames in both directions -/
  telemetry : Bool := false
  bitbang : Bitbang := .auto
deriving DecidableEq

open Schema in
def MotorOutput.schema : Schema MotorOutput :=
  record
    (field "motor_pwm_rate" u16 <| field "motor_pwm_protocol" choice <| field "use_unsynced_pwm" bool <|
      field "use_burst_dshot" bool <| field "use_dshot_telemetry" bool <| field "use_dshot_bitbang" choice done)
    (fun o => (o.pulseRate, o.protocol, o.unsynced, o.burst, o.telemetry, o.bitbang, ()))
    (fun (rate, protocol, unsynced, burst, telemetry, bitbang, _) => ⟨rate, protocol, unsynced, burst, telemetry, bitbang⟩)

structure Motor where
  output : MotorOutput := {}
  /-- command while armed at zero throttle (µs) -/
  minThrottle : UInt16 := 1070
  maxThrottle : UInt16 := 2000
  /-- command while disarmed (µs) -/
  minCommand : UInt16 := 1000
  poleCount : UInt8 := 14
deriving DecidableEq

open Schema in
def Motor.schema : Schema Motor :=
  record
    (field "dev" MotorOutput.schema <| field "min_throttle" u16 <| field "max_throttle" u16 <|
      field "min_command" u16 <| field "motor_pole_count" u8 done)
    (fun m => (m.output, m.minThrottle, m.maxThrottle, m.minCommand, m.poleCount, ()))
    (fun (output, minThrottle, maxThrottle, minCommand, poles, _) => ⟨output, minThrottle, maxThrottle, minCommand, poles⟩)

end FlightStore
