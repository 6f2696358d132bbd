/-
Flight modes and the conditions that activate them.

A condition activates its mode while an auxiliary channel is in a range, or follows the state of another mode: it is
then linked to that mode. The list of conditions has room for twenty.
-/
import FlightStore.Schema

namespace FlightStore

inductive Mode where
  | arm
  | angle
  | horizon
  | mag
  | headfree
  | passthru
  | failsafe
  | gpsRescue
  | antiGravity
  | beeper
  | ledLow
  | osd
  | telemetry
  | blackbox
  | airmode
  | flipOverAfterCrash
  | prearm
  | beeperMute
  | user1
  | user2
deriving DecidableEq, Repr

instance : Choice Mode where
  all := [.arm, .angle, .horizon, .mag, .headfree, .passthru, .failsafe, .gpsRescue, .antiGravity, .beeper, .ledLow, .osd,
    .telemetry, .blackbox, .airmode, .flipOverAfterCrash, .prearm, .beeperMute, .user1, .user2]
  name
    | .arm => "Arm"
    | .angle => "Angle"
    | .horizon => "Horizon"
    | .mag => "Mag"
    | .headfree => "Headfree"
    | .passthru => "Passthru"
    | .failsafe => "Failsafe"
    | .gpsRescue => "GpsRescue"
    | .antiGravity => "AntiGravity"
    | .beeper => "Beeper"
    | .ledLow => "LedLow"
    | .osd => "Osd"
    | .telemetry => "Telemetry"
    | .blackbox => "Blackbox"
    | .airmode => "Airmode"
    | .flipOverAfterCrash => "FlipOverAfterCrash"
    | .prearm => "Prearm"
    | .beeperMute => "BeeperMute"
    | .user1 => "User1"
    | .user2 => "User2"

/-- a range of a channel, in steps of 25 µs from 900 µs on -/
structure ChannelRange where
  startStep : UInt8 := 0
  endStep : UInt8 := 0
deriving DecidableEq

open Schema in
def ChannelRange.schema : Schema ChannelRange :=
  record (field "start_step" u8 <| field "end_step" u8 done)
    (fun r => (r.startStep, r.endStep, ())) (fun (s, e, _) => ⟨s, e⟩)

structure ModeCondition where
  mode : Mode
  /-- the auxiliary channel -/
  channel : UInt8
  range : ChannelRange
  /-- the mode whose state is followed instead of the range -/
  linkedTo : Option Mode
deriving DecidableEq

namespace ModeCondition

/-- a condition on a channel -/
def ofRange (mode : Mode) (channel : UInt8) (range : ChannelRange) : ModeCondition := ⟨mode, channel, range, none⟩

/-- a condition that follows another mode -/
def linked (mode leader : Mode) : ModeCondition := ⟨mode, 0, {}, some leader⟩

open Schema in
def schema : Schema ModeCondition :=
  record
    (field "mode" choice <| field "aux_channel_index" u8 <| field "range" ChannelRange.schema <|
      fieldOr "linked_to" none choice.optional done)
    (fun c => (c.mode, c.channel, c.range, c.linkedTo, ()))
    (fun (mode, channel, range, linkedTo, _) => ⟨mode, channel, range, linkedTo⟩)

end ModeCondition

/-- capacity of the list of conditions -/
def maxModeConditions : Nat := 20

abbrev ModeConditions := BoundedList ModeCondition maxModeConditions

namespace ModeConditions

/-- whether the list has a condition for a mode -/
def Present (l : ModeConditions) (m : Mode) : Prop := ∃ c ∈ l.items, c.mode = m

instance (l : ModeConditions) (m : Mode) : Decidable (Present l m) :=
  inferInstanceAs (Decidable (∃ c ∈ l.items, c.mode = m))

/-- whether a condition for a mode follows another mode -/
def Linked (cs : List ModeCondition) (m : Mode) : Prop := ∃ c ∈ cs, c.mode = m ∧ c.linkedTo.isSome

instance (cs : List ModeCondition) (m : Mode) : Decidable (Linked cs m) :=
  inferInstanceAs (Decidable (∃ c ∈ cs, c.mode = m ∧ c.linkedTo.isSome))

/-- the conditions for other modes than `m` -/
def without (cs : List ModeCondition) (m : Mode) : List ModeCondition := cs.filter (fun c => c.mode ≠ m)

/-- drops every condition for a mode -/
def remove (l : ModeConditions) (m : Mode) : ModeConditions :=
  ⟨without l.items m, Nat.le_trans (List.length_filter_le _ l.items) l.length_le⟩

def schema : Schema ModeConditions := ModeCondition.schema.boundedList maxModeConditions

end ModeConditions
end FlightStore
