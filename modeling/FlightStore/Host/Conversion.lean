/-
Conversion between images and JSON: `jsonOfImage` writes the settings of an image as JSON, `imageOfJson` makes the
image of settings written as JSON.
-/
import FlightStore.Host.Failure
import FlightStore.Json.Parser
import FlightStore.Json.Printer

namespace FlightStore.Host

/-- the settings of an image in the written form, ended by a line feed -/
def jsonOfImage (t : Target) (bytes : List UInt8) : Except Failure String :=
  match Image.ofBytes? bytes with
  | none => .error (.wrongImageSize bytes.length)
  | some i =>
    match i.decode t (.defaults t) with
    | .error e => .error (.image e)
    | .ok s => .ok (s.toJson.pretty ++ "\n")

/-- the image of settings in the written form -/
def imageOfJson (bytes : List UInt8) : Except Failure Image :=
  match (Json.parse bytes).bind Settings.ofJson? with
  | none => .error .json
  | some s =>
    match Image.ofSettings s with
    | .error e => .error (.image e)
    | .ok i => .ok i

end FlightStore.Host
