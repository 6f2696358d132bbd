/-
Repair of the features: what the board cannot do is switched off, and at most one radio input stays on.

The first enabled input in `radioPriority` wins. Without one, the target's default input is enabled, if the board
supports it. Software SPI comes before: while it is on, what shares its pins is switched off and not chosen as
default.
-/
import FlightStore.Board.Target
import FlightStore.Repair.Fixed

namespace FlightStore.Repair

/-- switches features off; reports a change if one of them was on -/
def disable (s fs : FeatureSet) : Fixed FeatureSet := ⟨s \ fs, s.Meets fs⟩

/-- whether a board can record on a device -/
def BlackboxDevice.Usable (caps : Capabilities) : BlackboxDevice → Prop
  | .flash => .flashFs ∈ caps
  | .sdCard => .sdCard ∈ caps
  | _ => True

instance (caps : Capabilities) (d : BlackboxDevice) : Decidable (BlackboxDevice.Usable caps d) := by
  cases d <;> unfold BlackboxDevice.Usable <;> infer_instance

/-- switches off what the board lacks -/
def disableUnsupported (t : Target) (s : Settings) : Fixed Settings := do
  let features ← disable s.features (unsupported t.capabilities)
  let device ← .assignIf (¬ BlackboxDevice.Usable t.capabilities s.blackbox.device) s.blackbox.device .none
  let telemetry ← .assignIf (.dshotTelemetry ∉ t.capabilities) s.motor.output.telemetry false
  return { s with
    features
    blackbox := { s.blackbox with device }
    motor := { s.motor with output := { s.motor.output with telemetry } } }

/-- what may not be on while software SPI is -/
def excluded (s : FeatureSet) : FeatureSet := if .softSpi ∈ s then softSpiExcluded else .empty

/-- keeps the first radio input, or enables the default of the target -/
def selectRadio (t : Target) (s : FeatureSet) : Fixed FeatureSet := do
  let barred := excluded s
  let s ← disable s barred
  match radioPriority.find? (· ∈ s) with
  | some input => disable s (radioInputs.erase input)
  | none =>
    if Supports t.capabilities t.defaultRadio ∧ ¬ barred.Meets t.defaultRadio then ⟨s ∪ t.defaultRadio, true⟩
    else pure s

end FlightStore.Repair
