/-
Serial ports and the functions that run on them.

A port map is valid if no port appears twice, every port runs a combination of functions that can share it, one to three
ports speak MSP and at most one carries the serial receiver. MSP shares a port with the blackbox only, the receiver with
those telemetry protocols that need no receiving line.
-/
import FlightStore.Schema

namespace FlightStore

inductive SerialFunction where
  | msp
  | gps
  | telemetryFrskyHub
  | telemetryHott
  | telemetryLtm
  | telemetrySmartport
  | rxSerial
  | blackbox
  | telemetryMavlink
  | escSensor
  | vtxSmartAudio
  | telemetryIbus
  | vtxTramp
  | rcDevice
deriving DecidableEq, Repr

namespace SerialFunction

/-- every function, in the order of its bits -/
def list : List SerialFunction :=
  [.msp, .gps, .telemetryFrskyHub, .telemetryHott, .telemetryLtm, .telemetrySmartport, .rxSerial, .blackbox,
    .telemetryMavlink, .escSensor, .vtxSmartAudio, .telemetryIbus, .vtxTramp, .rcDevice]

def name : SerialFunction → String
  | msp => "MSP"
  | gps => "GPS"
  | telemetryFrskyHub => "TELEMETRY_FRSKY_HUB"
  | telemetryHott => "TELEMETRY_HOTT"
  | telemetryLtm => "TELEMETRY_LTM"
  | telemetrySmartport => "TELEMETRY_SMARTPORT"
  | rxSerial => "RX_SERIAL"
  | blackbox => "BLACKBOX"
  | telemetryMavlink => "TELEMETRY_MAVLINK"
  | escSensor => "ESC_SENSOR"
  | vtxSmartAudio => "VTX_SMARTAUDIO"
  | telemetryIbus => "TELEMETRY_IBUS"
  | vtxTramp => "VTX_TRAMP"
  | rcDevice => "RCDEVICE"

def bit : SerialFunction → Nat
  | msp => 0
  | gps => 1
  | telemetryFrskyHub => 2
  | telemetryHott => 3
  | telemetryLtm => 4
  | telemetrySmartport => 5
  | rxSerial => 6
  | blackbox => 7
  | telemetryMavlink => 9
  | escSensor => 10
  | vtxSmartAudio => 11
  | telemetryIbus => 12
  | vtxTramp => 13
  | rcDevice => 14

end SerialFunction

instance : Flag SerialFunction where
  all := SerialFunction.list
  name := SerialFunction.name
  width := 16
  bit := SerialFunction.bit

abbrev SerialFunctions := FlagSet SerialFunction

namespace SerialFunctions

/-- every telemetry protocol -/
def telemetry : SerialFunctions :=
  .ofList [.telemetryFrskyHub, .telemetryHott, .telemetryLtm, .telemetrySmartport, .telemetryMavlink, .telemetryIbus]

/-- telemetry protocols that only send, so that they can share a port with the receiver -/
def shareableWithReceiver : SerialFunctions := .ofList [.telemetryFrskyHub, .telemetryLtm, .telemetryMavlink]

/-- functions that can share a port with MSP -/
def shareableWithMsp : SerialFunctions := .only .blackbox

end SerialFunctions

inductive PortName where
  | usbVcp
  | uart1
  | uart2
  | uart3
  | uart4
  | uart5
  | uart6
  | uart7
  | uart8
  | softSerial1
  | softSerial2
deriving DecidableEq, Repr

instance : Choice PortName where
  all := [.usbVcp, .uart1, .uart2, .uart3, .uart4, .uart5, .uart6, .uart7, .uart8, .softSerial1, .softSerial2]
  name
    | .usbVcp => "UsbVcp"
    | .uart1 => "Uart1"
    | .uart2 => "Uart2"
    | .uart3 => "Uart3"
    | .uart4 => "Uart4"
    | .uart5 => "Uart5"
    | .uart6 => "Uart6"
    | .uart7 => "Uart7"
    | .uart8 => "Uart8"
    | .softSerial1 => "SoftSerial1"
    | .softSerial2 => "SoftSerial2"

/-- a port and what runs on it -/
structure SerialPort where
  name : PortName
  functions : SerialFunctions
deriving DecidableEq

namespace SerialPort

/-- whether the functions of a port can run on it at the same time -/
def Shares (p : SerialPort) : Prop :=
  p.functions.count ≤ 1 ∨
    if SerialFunction.msp ∈ p.functions then p.functions.erase .msp ⊆ SerialFunctions.shareableWithMsp
    else SerialFunction.rxSerial ∈ p.functions ∧ p.functions.erase .rxSerial ⊆ SerialFunctions.shareableWithReceiver

instance (p : SerialPort) : Decidable p.Shares := by unfold Shares; infer_instance

open Schema in
def schema : Schema SerialPort :=
  record (field "identifier" choice <| field "functions" flags done)
    (fun p => (p.name, p.functions, ())) (fun (name, functions, _) => ⟨name, functions⟩)

end SerialPort

/-- capacity of a port map -/
def maxSerialPorts : Nat := 12

/-- what the ports of a board do at first -/
def standardPorts : BoundedList SerialPort maxSerialPorts :=
  ⟨[⟨.usbVcp, .only .msp⟩, ⟨.uart1, .empty⟩, ⟨.uart2, .only .rxSerial⟩, ⟨.uart3, .empty⟩], by decide⟩

/-- the serial ports in use -/
structure SerialPorts where
  ports : BoundedList SerialPort maxSerialPorts := standardPorts
  /-- received over MSP, it reboots the board into its loader -/
  rebootCharacter : UInt8 := 0x52
deriving DecidableEq

namespace SerialPorts

/-- the first port that runs one of the functions -/
def find? (s : SerialPorts) (fs : SerialFunctions) : Option SerialPort :=
  s.ports.items.find? (fun p => p.functions.Meets fs)

/-- whether a port runs one of the functions -/
def Has (s : SerialPorts) (fs : SerialFunctions) : Prop := ∃ p ∈ s.ports.items, p.functions.Meets fs

instance (s : SerialPorts) (fs : SerialFunctions) : Decidable (s.Has fs) :=
  inferInstanceAs (Decidable (∃ p ∈ s.ports.items, p.functions.Meets fs))

/-- takes the functions off every port -/
def remove (s : SerialPorts) (fs : SerialFunctions) : SerialPorts :=
  { s with ports := s.ports.map fun p => { p with functions := p.functions \ fs } }

/-- number of ports that run a function -/
def countOf (s : SerialPorts) (f : SerialFunction) : Nat := s.ports.items.countP (fun p => f ∈ p.functions)

/-- what a board can run: see the head of this module -/
def Valid (s : SerialPorts) : Prop :=
  (s.ports.items.map SerialPort.name).Nodup ∧ (∀ p ∈ s.ports.items, p.Shares) ∧
    1 ≤ s.countOf .msp ∧ s.countOf .msp ≤ 3 ∧ s.countOf .rxSerial ≤ 1

instance (s : SerialPorts) : Decidable s.Valid := by unfold Valid; infer_instance

open Schema in
def schema : Schema SerialPorts :=
  record (field "ports" (SerialPort.schema.boundedList maxSerialPorts) <| field "reboot_character" u8 done)
    (fun s => (s.ports, s.rebootCharacter, ())) (fun (ports, reboot, _) => ⟨ports, reboot⟩)

end SerialPorts
end FlightStore
