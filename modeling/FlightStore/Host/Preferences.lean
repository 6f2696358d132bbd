/-
Preferences: what the host tool remembers between invocations, the image, the sensor and the board it is for.

They are kept as JSON in a file. A missing field has its default value, and a file that cannot be read or is not of that
form counts as no file.
-/
import FlightStore.Board.Target
import FlightStore.Json.Parser
import FlightStore.Json.Printer
import FlightStore.Loop.Timing
import FlightStore.Storage.Files

namespace FlightStore.Host

structure Preferences where
  /-- the image to work on, unless the command line names one -/
  imagePath : Option String := none
  boardIdentifier : String := Target.host.boardIdentifier.text
  capabilities : Capabilities := Target.host.capabilities
  defaultRadio : FeatureSet := Target.host.defaultRadio
  sensor : SensorModel := .none
deriving DecidableEq

namespace Preferences

/-- a field that may be missing -/
def field {α : Type} (name : String) (form : Json.Form α) (value : α) : Json.Field α :=
  ⟨name, form, some value, some value⟩

def form : Json.Form Preferences :=
  let d : Preferences := {}
  .record
    (.cons (field "image_path" (.optional .text) d.imagePath) <|
      .cons (field "board_identifier" .text d.boardIdentifier) <| .cons (field "capabilities" .flags d.capabilities) <|
      .cons (field "default_rx_feature" .flags d.defaultRadio) <| .cons (field "sensor" .choice d.sensor) .nil)
    (fun p => (p.imagePath, p.boardIdentifier, p.capabilities, p.defaultRadio, p.sensor, ()))
    (fun (image, board, caps, radio, sensor, _) => ⟨image, board, caps, radio, sensor⟩)

/-- the written form -/
def toText (p : Preferences) : String := (form.write p).pretty

/-- reads the bytes of a file -/
def ofBytes? (bytes : List UInt8) : Option Preferences := (Json.parse bytes).bind form.read

/-- what is kept in a file, or the defaults -/
def load (files : Files) (path : String) : Preferences :=
  ((files.read path).toOption.bind ofBytes?).getD {}

/-- takes over what the command line says, leaving the rest as it is -/
def update (p : Preferences) (image : Option String) (sensor : Option SensorModel) (board : Option String) : Preferences :=
  { p with
    imagePath := image.or p.imagePath
    sensor := sensor.getD p.sensor
    boardIdentifier := board.getD p.boardIdentifier }

/-- the target that settings are made for -/
def target (p : Preferences) : Target :=
  { Target.ofBoard p.boardIdentifier p.capabilities with defaultRadio := p.defaultRadio }

end Preferences
end FlightStore.Host
