/-
The repair pass: every rule once, in a fixed order, with a report of those that changed something.

Settings from older firmware or other tools may break rules between fields. `repair` turns them into settings that can
be activated. It never fails, and a second pass finds nothing to do.
-/
import FlightStore.Repair.Filters
import FlightStore.Repair.Links
import FlightStore.Repair.Motors
import FlightStore.Repair.Peripherals
import FlightStore.Repair.Ranges

namespace FlightStore.Repair

/-- the rules of a pass, in their order -/
inductive Rule where
  | serialPorts
  | capabilities
  | rxExclusion
  | filterLimits
  | filterOrdering
  | ranges
  | motorProtocol
  | loopTiming
  | peripherals
  | modeLinks
  | profileIndices
deriving DecidableEq, Repr

namespace Rule

def list : List Rule :=
  [.serialPorts, .capabilities, .rxExclusion, .filterLimits, .filterOrdering, .ranges, .motorProtocol, .loopTiming,
    .peripherals, .modeLinks, .profileIndices]

def name : Rule → String
  | serialPorts => "SERIAL_PORTS"
  | capabilities => "CAPABILITIES"
  | rxExclusion => "RX_EXCLUSION"
  | filterLimits => "FILTER_LIMITS"
  | filterOrdering => "FILTER_ORDERING"
  | ranges => "RANGES"
  | motorProtocol => "MOTOR_PROTOCOL"
  | loopTiming => "LOOP_TIMING"
  | peripherals => "PERIPHERALS"
  | modeLinks => "MODE_LINKS"
  | profileIndices => "PROFILE_INDICES"

end Rule

instance : Flag Rule where
  all := Rule.list
  name := Rule.name
  width := 16
  bit r := Rule.list.idxOf r

/-- the rules that changed something -/
abbrev Report := FlagSet Rule

/-- replaces a port map that no board can run -/
def fixPorts (p : SerialPorts) : Fixed SerialPorts := if p.Valid then pure p else ⟨{}, true⟩

/-- an index past the last slot becomes 0 -/
def fixIndices (s : SystemState) : Fixed SystemState := do
  let rateProfileIndex ← .assignIf (rateProfileCount ≤ s.rateProfileIndex.toNat) s.rateProfileIndex 0
  let pidProfileIndex ← .assignIf (pidProfileCount ≤ s.pidProfileIndex.toNat) s.pidProfileIndex 0
  return { s with rateProfileIndex, pidProfileIndex }

/-- what a rule does to the settings -/
def Rule.apply (t : Target) (sensor : SensorModel) (s : Settings) : Rule → Fixed Settings
  | serialPorts => do return { s with serial := ← fixPorts s.serial }
  | capabilities => disableUnsupported t s
  | rxExclusion => do return { s with features := ← selectRadio t s.features }
  | filterLimits => clampFilters s
  | filterOrdering => orderFilters s
  | ranges => fixRanges t.capabilities s
  | motorProtocol => fixProtocol s
  | loopTiming => fixLoop sensor s
  | peripherals => fixPeripherals t.capabilities s
  | modeLinks => do return { s with modes := ← fixModeLinks s.modes }
  | profileIndices => do return { s with system := ← fixIndices s.system }

/-- settings under repair and the report so far -/
structure Pass where
  settings : Settings
  report : Report

/-- applies one rule -/
def Pass.step (t : Target) (sensor : SensorModel) (p : Pass) (r : Rule) : Pass :=
  let fixed := r.apply t sensor p.settings
  ⟨fixed.value, if fixed.changed then p.report.insert r else p.report⟩

/-- applies every rule once -/
def repair (t : Target) (sensor : SensorModel) (s : Settings) : Pass :=
  Rule.list.foldl (Pass.step t sensor) ⟨s, .empty⟩

end FlightStore.Repair
