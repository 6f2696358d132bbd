/-
Targets: the hardware that settings are for.

A target has an identifier of at most four bytes, its capabilities and its own defaults: the radio input to fall back
to, the features of a reset, a hook that adjusts the settings after a reset, and a builder of custom defaults that may
fail.
-/
import FlightStore.Board.Capability
import FlightStore.Settings.Basic

namespace FlightStore

/-- why custom defaults are not to be had -/
inductive DefaultsError where
  /-- the target has none -/
  | unavailable
  /-- they could not be applied -/
  | invalid (reason : String)
deriving DecidableEq, Repr

def DefaultsError.message : DefaultsError → String
  | unavailable => "no custom defaults available"
  | invalid reason => "invalid custom defaults: " ++ reason

structure Target where
  boardIdentifier : BoundedString maxBoardIdentifier
  capabilities : Capabilities
  /-- radio input enabled when none is -/
  defaultRadio : FeatureSet := .only .rxSerial
  /-- features enabled by a reset -/
  defaultFeatures : FeatureSet := .ofList [.airmode, .antiGravity, .dynamicFilter]
  /-- adjusts the settings after a reset -/
  configure : Option (Settings → Settings) := none
  /-- turns the settings after a reset into custom defaults; if it fails, what it left is worthless -/
  customDefaults : Option (Settings → Settings × Except DefaultsError Unit) := none

namespace Target

/-- a target named after a board: the identifier takes those of the first four characters that find room -/
def ofBoard (board : String) (caps : Capabilities) : Target where
  boardIdentifier := .ofChars (board.toList.take maxBoardIdentifier)
  capabilities := caps

/-- a target on the host, with every capability -/
def host : Target := ofBoard "SITL" .declared

end Target
end FlightStore
