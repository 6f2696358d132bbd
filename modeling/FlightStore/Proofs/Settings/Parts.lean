/-
The groups split the settings into independent parts.

Each group stands for one part (`GroupId.part`), and its row in the table works on just this part: a reset gives it its
initial value, encoding writes its stored form, and decoding replaces it (`reset_eq`, `encode_eq`, `decode_eq`). What
was put into a part is read back from it, no other part sees a change, and settings whose parts all agree are the same.
Settings are therefore known from their parts, and a reset is: every part gets its initial value, whatever it was
(`part_resetGroups`), and the target's hook then makes the defaults of it (`resetAll_eq`).
-/
import Mathlib.Tactic
import FlightStore.Settings.Defaults

namespace FlightStore

open FlightStore.Wire

/-- a part of the settings: how it is read and replaced, its value after a reset for a target, and its stored form -/
structure Part where
  Value : Type
  get : Settings → Value
  set : Value → Settings → Settings
  initial : Target → Value
  codec : Codec Value

/-- the stored form of a part in settings -/
def Part.payload (p : Part) (s : Settings) : List UInt8 := p.codec.put (p.get s)

namespace GroupId

/-- the part of the settings that a group stands for -/
def part : GroupId → Part
  | pilot => ⟨Pilot, Settings.pilot, fun v s => { s with pilot := v }, fun _ => {}, Pilot.schema.wire⟩
  | system =>
    ⟨SystemState, Settings.system, fun v s => { s with system := v }, fun t => { boardIdentifier := t.boardIdentifier },
      SystemState.schema.wire⟩
  | features =>
    ⟨FeatureSet, Settings.features, fun v s => { s with features := v }, fun t => t.defaultFeatures ∪ t.defaultRadio,
      Schema.flags.wire⟩
  | serial => ⟨SerialPorts, Settings.serial, fun v s => { s with serial := v }, fun _ => {}, SerialPorts.schema.wire⟩
  | rx => ⟨Receiver, Settings.receiver, fun v s => { s with receiver := v }, fun _ => {}, Receiver.schema.wire⟩
  | motor => ⟨Motor, Settings.motor, fun v s => { s with motor := v }, fun _ => {}, Motor.schema.wire⟩
  | gyro => ⟨Gyro, Settings.gyro, fun v s => { s with gyro := v }, fun _ => {}, Gyro.schema.wire⟩
  | pid => ⟨PidLoop, Settings.pidLoop, fun v s => { s with pidLoop := v }, fun _ => {}, PidLoop.schema.wire⟩
  | accelerometer =>
    ⟨Accelerometer, Settings.accelerometer, fun v s => { s with accelerometer := v }, fun _ => {},
      Accelerometer.schema.wire⟩
  | throttleCorrection =>
    ⟨ThrottleCorrection, Settings.throttleCorrection, fun v s => { s with throttleCorrection := v }, fun _ => {},
      ThrottleCorrection.schema.wire⟩
  | gps => ⟨Gps, Settings.gps, fun v s => { s with gps := v }, fun _ => {}, Gps.schema.wire⟩
  | failsafe => ⟨Failsafe, Settings.failsafe, fun v s => { s with failsafe := v }, fun _ => {}, Failsafe.schema.wire⟩
  | modeActivations =>
    ⟨ModeConditions, Settings.modes, fun v s => { s with modes := v }, fun _ => .empty, ModeConditions.schema.wire⟩
  | beeper => ⟨Beeper, Settings.beeper, fun v s => { s with beeper := v }, fun _ => {}, Beeper.schema.wire⟩
  | blackbox => ⟨Blackbox, Settings.blackbox, fun v s => { s with blackbox := v }, fun _ => {}, Blackbox.schema.wire⟩
  | vtx => ⟨Vtx, Settings.vtx, fun v s => { s with vtx := v }, fun _ => {}, Vtx.schema.wire⟩
  | vtxTable => ⟨VtxTable, Settings.vtxTable, fun v s => { s with vtxTable := v }, fun _ => {}, VtxTable.schema.wire⟩
  | pidProfiles =>
    ⟨PidProfiles, Settings.pidProfiles, fun v s => { s with pidProfiles := v }, fun _ => .replicate pidProfileCount {},
      (PidProfile.schema.vector pidProfileCount).wire⟩
  | rateProfiles =>
    ⟨RateProfiles, Settings.rateProfiles, fun v s => { s with rateProfiles := v }, fun _ => .replicate rateProfileCount {},
      (RateProfile.schema.vector rateProfileCount).wire⟩

theorem group_id (g : GroupId) : g.group.id = g := by cases g <;> rfl

theorem mem_list (g : GroupId) : g ∈ list := by cases g <;> decide

theorem ofNumber?_number (g : GroupId) : ofNumber? g.number = some g := by cases g <;> rfl

/-- a number belongs to the group that has it, and to no other -/
theorem ofNumber?_eq_some_iff {n : UInt16} {g : GroupId} : ofNumber? n = some g ↔ n = g.number := by
  constructor
  · intro h
    have hnumber := List.find?_some h
    exact (of_decide_eq_true hnumber).symm
  · rintro rfl
    exact ofNumber?_number g

theorem number_injective : Function.Injective number := fun g _ heq =>
  Option.some.inj ((ofNumber?_number g).symm.trans (ofNumber?_eq_some_iff.2 heq))

/-! ## The rows of the table -/

/-- a row resets the part of its group -/
theorem reset_eq (g : GroupId) (t : Target) (s : Settings) :
    g.group.reset t s = g.part.set (g.part.initial t) s := by
  cases g with
  | pidProfiles =>
    -- slot by slot, where the part is replaced as a whole
    have hslots : s.pidProfiles.map PidProfile.reset = .replicate pidProfileCount {} := Vector.map_const' ..
    exact congrArg (fun v => { s with pidProfiles := v }) hslots
  | rateProfiles =>
    have hslots : s.rateProfiles.map RateProfile.reset = .replicate rateProfileCount {} := Vector.map_const' ..
    exact congrArg (fun v => { s with rateProfiles := v }) hslots
  | _ => rfl

/-- a row encodes the part of its group -/
theorem encode_eq (g : GroupId) (size : Nat) (s : Settings) :
    g.group.encode size s = g.part.codec.putInto size (g.part.get s) := by
  cases g <;> rfl

/-- a row decodes into the part of its group -/
theorem decode_eq (g : GroupId) (bytes : List UInt8) (s : Settings) :
    g.group.decode bytes s = (g.part.codec.read bytes).map fun v => g.part.set v s := by
  cases g <;> rfl

/-! ## Reading and replacing a part -/

/-- a part that was replaced is read back -/
theorem get_set_self (g : GroupId) (v : g.part.Value) (s : Settings) : g.part.get (g.part.set v s) = v := by
  cases g <;> rfl

/-- replacing a part changes no other part -/
theorem get_set_ne {g h : GroupId} (hne : g ≠ h) (v : h.part.Value) (s : Settings) :
    g.part.get (h.part.set v s) = g.part.get s := by
  cases g <;> cases h <;> first | rfl | exact absurd rfl hne

theorem part_reset_self (g : GroupId) (t : Target) (s : Settings) : g.part.get (g.group.reset t s) = g.part.initial t := by
  rw [reset_eq, get_set_self]

theorem part_reset_ne {g h : GroupId} (hne : g ≠ h) (t : Target) (s : Settings) :
    g.part.get (h.group.reset t s) = g.part.get s := by
  rw [reset_eq, get_set_ne hne]

/-! ## All parts -/

/-- the parts of all groups make up the settings -/
theorem set_all (s prior : Settings) :
    list.foldl (fun prior g => g.part.set (g.part.get s) prior) prior = s := by
  simp only [list, List.foldl_cons, List.foldl_nil, GroupId.part]

/-- settings with the same parts are the same -/
theorem ext_parts {s s' : Settings} (h : ∀ g : GroupId, g.part.get s = g.part.get s') : s = s' :=
  calc s = list.foldl (fun prior g => g.part.set (g.part.get s) prior) s := (set_all s s).symm
    _ = list.foldl (fun prior g => g.part.set (g.part.get s') prior) s := by simp only [h]
    _ = s' := set_all s' s

/-- resetting some groups one after the other, but for those to keep, resets just these -/
theorem part_foldl_reset (t : Target) (keep : GroupId → Prop) [DecidablePred keep] (g : GroupId) (ids : List GroupId) :
    ∀ s : Settings, g.part.get (ids.foldl (fun s h => if keep h then s else h.group.reset t s) s) =
      if g ∈ ids ∧ ¬ keep g then g.part.initial t else g.part.get s := by
  induction ids with
  | nil => simp
  | cons h ids ih =>
    intro s
    rw [List.foldl_cons, ih]
    by_cases hg : g = h
    · subst hg
      by_cases hkeep : keep g
      · simp [hkeep]
      · simp [hkeep, part_reset_self]
    · have hstep : g.part.get (if keep h then s else h.group.reset t s) = g.part.get s := by
        split_ifs
        · rfl
        · exact part_reset_ne hg t s
      simp [hstep, hg]

end GroupId

/-- **A reset forgets.** Whatever the settings were, a reset of all groups gives every part its initial value. -/
theorem Settings.part_resetGroups (g : GroupId) (t : Target) (s : Settings) :
    g.part.get (resetGroups t s) = g.part.initial t := by
  rw [resetGroups, groups, List.foldl_map]
  have hfold := g.part_foldl_reset t (fun _ => False) GroupId.list s
  simpa [g.mem_list] using hfold

/-- so a full reset gives the defaults of the target -/
theorem Settings.resetAll_eq (t : Target) (s : Settings) : resetAll t s = defaults t := by
  have hgroups : resetGroups t s = resetGroups t {} := GroupId.ext_parts fun g => by
    rw [part_resetGroups, part_resetGroups]
  rw [defaults, resetAll, resetAll, hgroups]

end FlightStore
