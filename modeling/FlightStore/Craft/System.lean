/-
The craft as a whole: its names, the active profiles and the state of the configuration.
-/
import FlightStore.Schema

namespace FlightStore

/-- capacity of the identifier of a board, in bytes -/
def maxBoardIdentifier : Nat := 4

/-- capacity of the names of craft and pilot, in bytes -/
def maxPilotName : Nat := 16

structure Pilot where
  /-- name of the craft -/
  name : BoundedString maxPilotName := .empty
  displayName : BoundedString maxPilotName := .empty
deriving DecidableEq

open Schema in
def Pilot.schema : Schema Pilot :=
  record (field "name" (boundedText maxPilotName) <| field "display_name" (boundedText maxPilotName) done)
    (fun p => (p.name, p.displayName, ())) (fun (name, displayName, _) => ⟨name, displayName⟩)

/-- whether a user has ever saved the settings -/
inductive ConfigurationState where
  | defaultsBare
  | configured
deriving DecidableEq, Repr

instance : Choice ConfigurationState where
  all := [.defaultsBare, .configured]
  name
    | .defaultsBare => "DefaultsBare"
    | .configured => "Configured"

/-- tuning of the scheduler to the loop rate, which telemetry from the motors needs -/
inductive SchedulerTuning where
  | off
  | on
  /-- on if telemetry from the motors is in use -/
  | auto
deriving DecidableEq, Repr

instance : Choice SchedulerTuning where
  all := [.off, .on, .auto]
  name
    | .off => "Off"
    | .on => "On"
    | .auto => "Auto"

structure SystemState where
  /-- slot of the active PID profile -/
  pidProfileIndex : UInt8 := 0
  /-- slot of the active rate profile -/
  rateProfileIndex : UInt8 := 0
  configurationState : ConfigurationState := .defaultsBare
  schedulerTuning : SchedulerTuning := .auto
  boardIdentifier : BoundedString maxBoardIdentifier := .empty
  /-- time after power-on without arming (s) -/
  armingGraceTime : UInt8 := 5
  debugMode : UInt8 := 0
  taskStatistics : Bool := true
deriving DecidableEq

open Schema in
def SystemState.schema : Schema SystemState :=
  record
    (field "pid_profile_index" u8 <| field "active_rate_profile" u8 <| field "configuration_state" choice <|
      field "scheduler_optimize_rate" choice <| field "board_identifier" (boundedText maxBoardIdentifier) <|
      field "power_on_arming_grace_time" u8 <| field "debug_mode" u8 <| field "task_statistics" bool done)
    (fun s => (s.pidProfileIndex, s.rateProfileIndex, s.configurationState, s.schedulerTuning, s.boardIdentifier,
      s.armingGraceTime, s.debugMode, s.taskStatistics, ()))
    (fun (pid, rate, state, tuning, board, grace, debug, stats, _) => ⟨pid, rate, state, tuning, board, grace, debug, stats⟩)

end FlightStore
