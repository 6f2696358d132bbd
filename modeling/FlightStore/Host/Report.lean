/-
Lines that the commands of the host tool print.
-/
import FlightStore.Device.Call
import FlightStore.Equipment.Melody
import FlightStore.Repair.Pass
import FlightStore.Text.Blank

namespace FlightStore.Host

/-- how a check went -/
def status (ok : Bool) : String := if ok then "OK" else "FAILED"

/-! ## Confirmations -/

/-- a melody, drawn with a mark for each tone and a blank for each pause -/
def pattern (m : Melody) : String :=
  String.ofList (Text.trimEnd (m.map fun n => if n.pitch.isSome then '♪' else ' '))

/-- the pitch a melody starts with, in whole hertz; 0 if it starts with a pause or is empty -/
def startFrequency (m : Melody) : Nat :=
  match (m.head?.bind Note.pitch).bind Pitch.frequency? with
  | some f => f.round.toUInt64.toNat
  | none => 0

/-- stands for the melody that confirms an action -/
def beepLine (pulses : Nat) : String :=
  let m := Melody.confirmation pulses
  "Beep [" ++ pattern m ++ "] (" ++ toString pulses ++ " beeps at " ++ toString (startFrequency m) ++ "Hz, " ++
    toString m.duration ++ "ms)"

/-- one line for each confirmation among the calls of a device -/
def beepLines (calls : List Call) : List String := calls.filterMap fun
  | .acknowledge pulses => some (beepLine pulses)
  | _ => none

/-! ## Repairs and features -/

/-- a rule that changed something, in words -/
def repairLine (r : Repair.Rule) : String :=
  "Repaired " ++ String.ofList (r.name.toList.map fun c => if c = '_' then ' ' else c.toLower)

/-- what a repair pass did, in words -/
def repairLines (report : Repair.Report) : List String :=
  if report = .empty then ["No repairs needed."] else report.flags.map repairLine

/-- number of columns that the name of a feature takes -/
def featureColumns : Nat := 20

/-- a feature and whether it is enabled; what a board does not support counts as neither -/
def featureLine (caps : Capabilities) (enabled : FeatureSet) (f : Feature) : String :=
  let state := if f ∈ unsupported caps then "unsupported" else if f ∈ enabled then "enabled" else "disabled"
  String.ofList (f.name.toList.rightpad featureColumns ' ') ++ " " ++ state

end FlightStore.Host
