/-
A repair pass with every step checked.

An index past the end of a list or of the three axes, bounds of a range in the wrong order, a division by zero and a
number or a duration that does not fit its words have no result here. Five rules have such steps: the ports are compared
with the slice of those in front of them, gains are looked up by the number of their axis, denominators are brought into
ranges, and the loop timing is computed on machine words. `Rule.applied?` follows the rules in this way, `repair?` the
pass, and `repair?_eq` proves that each step has a result on all settings, and that the result is that of `repair`.
-/
import FlightStore.Proofs.Loop.Threshold
import FlightStore.Repair.Pass

namespace FlightStore

/-! ## Timing -/

namespace Timing.Duration

instance (d e : Duration) : Decidable (d ≤ e) :=
  inferInstanceAs (Decidable (d.seconds < e.seconds ∨ d.seconds = e.seconds ∧ d.rest ≤ e.rest))

theorem mod_lt (n : Nat) : n % nanosPerSecond < nanosPerSecond := Nat.mod_lt n (by decide)

/-- so many nanoseconds -/
def ofNanos (n : Nat) : Duration := ofParts (.ofNat (n / nanosPerSecond)) (n % nanosPerSecond) (mod_lt n)

/-- a second at most is less than a word of 64 bits holds -/
theorem lt_of_le_second {n : Nat} (h : n ≤ nanosPerSecond) : n < 2 ^ 64 := Nat.lt_of_le_of_lt h (by decide)

theorem nanos_ofNanos {n : Nat} (h : n ≤ nanosPerSecond) : (ofNanos n).nanos = n := by
  have hseconds : n / nanosPerSecond < 2 ^ 64 :=
    Nat.lt_of_le_of_lt (Nat.div_le_self n nanosPerSecond) (lt_of_le_second h)
  rw [ofNanos, nanos_ofParts hseconds, Nat.div_add_mod']

/-- the pulse rate of an interval, in words of 64 bits and at the end one of 16 -/
def maxUpdateRate? (restriction : Duration) : Option UInt16 := do
  let interval ← restriction.nanos?
  let nanos := max interval 1 % UInt64.size
  let sum ← fits? 64 (nanosPerSecond + nanos / 2)
  if nanos = 0 then none else some (.ofNat (min (sum / nanos) 65535))

/-- an interval of at most a second has a pulse rate -/
theorem maxUpdateRate?_ofNanos {n : Nat} (h : n ≤ nanosPerSecond) :
    (ofNanos n).maxUpdateRate? = some (maxUpdateRate n) := by
  have hpos : 0 < max n 1 := Nat.lt_of_lt_of_le Nat.one_pos (Nat.le_max_right n 1)
  have hle : max n 1 ≤ nanosPerSecond := Nat.max_le.2 ⟨h, by decide⟩
  have hword : max n 1 % UInt64.size = max n 1 := Nat.mod_eq_of_lt (lt_of_le_second hle)
  have hsum : nanosPerSecond + max n 1 / 2 < 2 ^ 64 := by
    have htwo : nanosPerSecond + nanosPerSecond < 2 ^ 64 := by decide
    omega
  rw [maxUpdateRate?, nanos?_eq, nanos_ofNanos h, Option.bind_eq_bind, Option.bind_some, maxUpdateRate]
  simp only [hword, fits?_of_lt hsum, Option.bind_some, if_neg hpos.ne']

end Timing.Duration

namespace Timing

theorem updateRestriction_le (protocol : MotorProtocol) : updateRestriction protocol ≤ nanosPerSecond := by
  cases protocol <;> decide

/-- the period of the control loop has no more seconds than a byte times a byte -/
theorem controlLoopPeriod_fits (sensor : SensorModel) (lowpass : HardwareLowpass) (sync process : UInt8) :
    controlLoopPeriod (samplingInterval sensor lowpass) sync process / nanosPerSecond < 2 ^ 64 := by
  have hturns : sync.toNat * process.toNat < 2 ^ 8 * 2 ^ 8 := Nat.mul_lt_mul'' sync.toNat_lt process.toNat_lt
  have hseconds : controlLoopPeriod (samplingInterval sensor lowpass) sync process / nanosPerSecond ≤
      sync.toNat * process.toNat :=
    Nat.div_le_of_le_mul (Nat.mul_le_mul_right _ (samplingInterval_le sensor lowpass))
  exact Nat.lt_of_le_of_lt hseconds (Nat.lt_trans hturns (by decide))

end Timing

namespace Repair

open Timing (Duration)

/-! ## Ports -/

/-- whether the ports from a place on are apart from all in front of them, and their functions can share them -/
def portsValid? (ports : List SerialPort) : List SerialPort → Nat → Option Bool
  | [], _ => some true
  | p :: rest, i => do
    let front ← if i ≤ ports.length then some (ports.take i) else none
    if p.name ∈ front.map SerialPort.name then some false
    else if p.Shares then portsValid? ports rest (i + 1)
    else some false

/-- replaces a port map that no board can run -/
def fixPorts? (s : SerialPorts) : Option (Fixed SerialPorts) := do
  let valid ← portsValid? s.ports.items s.ports.items 0
  some (if valid ∧ 1 ≤ s.countOf .msp ∧ s.countOf .msp ≤ 3 ∧ s.countOf .rxSerial ≤ 1 then pure s else ⟨{}, true⟩)

/-! ## Axes and slots -/

/-- the value of an axis, by its number -/
def axis? {α : Type} (a : Axes α) (number : Nat) : Option α := [a.roll, a.pitch, a.yaw][number]?

/-- the values of all axes, looked up one by one -/
def axes? {α : Type} (a : Axes α) : Option (Axes α) := do
  some ⟨← axis? a 0, ← axis? a 1, ← axis? a 2⟩

/-- applies a rule to every slot -/
def slots? {α β : Type} {n : Nat} (f : α → Option (Fixed β)) (v : Vector α n) : Option (Fixed (Vector β n)) := do
  let fixed ← v.mapM f
  some (.slots id fixed)

/-- switches off what is out of order in a profile, with the gains looked up -/
def orderProfile? (p : PidProfile) : Option (Fixed PidProfile) := do
  let dMin ← axes? p.dMin
  let gains ← axes? p.gains
  some (orderProfile { p with dMin, gains })

def orderFilters? (s : Settings) : Option (Fixed Settings) := do
  let ordered ← slots? orderProfile? s.pidProfiles
  some do
    let gyro ← orderGyro s.gyro
    let pidProfiles ← ordered
    return { s with gyro, pidProfiles }

/-- takes feed-forward off the axes without smoothing, with the gains looked up -/
def fixUnsmoothed? (r : Receiver) (p : PidProfile) : Option (Fixed PidProfile) := do
  let gains ← axes? p.gains
  some (fixUnsmoothed r { p with gains })

def fixPeripherals? (caps : Capabilities) (s : Settings) : Option (Fixed Settings) := do
  -- the first two rules are done with when the profiles are looked at
  let found := (fixSerialFeatures s >>= fixRescue caps).value
  let smoothed ← slots? (fixUnsmoothed? found.receiver) found.pidProfiles
  some do
    let s ← fixSerialFeatures s
    let s ← fixRescue caps s
    let receiver ← fixRssi s.features s.receiver
    let pidProfiles ← smoothed
    return { s with receiver, pidProfiles }

/-! ## Ranges -/

/-- a number brought into a range, if its bounds are in order -/
def clamp? (lo hi v : UInt8) : Option UInt8 := if lo ≤ hi then some (clamp lo hi v) else none

def fixRanges? (caps : Capabilities) (s : Settings) : Option (Fixed Settings) := do
  let sync ← clamp? 1 Timing.maxSyncDenom s.gyro.syncDenom
  let process ← clamp? 1 Timing.maxProcessDenom s.pidLoop.processDenom
  some do
    let pidProfiles ← .slots fixProfileRanges s.pidProfiles
    let syncDenom ← .assign s.gyro.syncDenom sync
    let processDenom ← .assign s.pidLoop.processDenom process
    let beeper ← fixBeeper s.beeper
    let vtx ← if .vtxTable ∈ caps then fixVtx s.vtxTable s.vtx else pure s.vtx
    return { s with pidProfiles, gyro := { s.gyro with syncDenom }, pidLoop := { processDenom }, beeper, vtx }

/-! ## Loop timing -/

/-- the shortest interval of a protocol, as a duration -/
def restriction (o : MotorOutput) : Duration := .ofNanos (Timing.updateRestriction o.protocol)

/-- a pulse rate of its own, bounded by the shortest interval of the protocol -/
def limitPulseRate? (o : MotorOutput) : Option (Fixed UInt16) :=
  if o.unsynced ∧ o.protocol.limitsUnsyncedRate then do
    let fastest ← (restriction o).maxUpdateRate?
    some (.assignIf (fastest < o.pulseRate) o.pulseRate fastest)
  else some (pure o.pulseRate)

/-- the denominator of the control loop that respects the shortest interval of a protocol -/
def slowEnough? (o : MotorOutput) (sampling : Duration) (syncDenom processDenom : UInt8) : Option UInt8 :=
  if o.unsynced then some processDenom
  else do
    let period ← sampling.loopPeriod? syncDenom processDenom
    if restriction o ≤ period then some processDenom
    else do
      let threshold ← (restriction o).minProcessDenom? sampling syncDenom
      some (max processDenom threshold)

def fixLoop? (sensor : SensorModel) (s : Settings) : Option (Fixed Settings) := do
  let sampling : Duration := .ofNanos (Timing.samplingInterval sensor s.gyro.hardwareLowpass)
  let denoms := startDenoms s
  let limited ← limitPulseRate? s.motor.output
  let process ← slowEnough? s.motor.output sampling denoms.1 denoms.2
  let gyroPeriod ← sampling.times? denoms.1.toUInt32
  some do
    let pulseRate ← limited
    let syncDenom ← .assign s.gyro.syncDenom denoms.1
    let processDenom ← .assign s.pidLoop.processDenom process
    let features ←
      if gyroPeriod ≤ .ofNanos Timing.dynamicFilterLimit then pure s.features
      else disable s.features (.only .dynamicFilter)
    return { s with
      motor := { s.motor with output := { s.motor.output with pulseRate } }
      gyro := { s.gyro with syncDenom }
      pidLoop := { processDenom }
      features }

/-! ## The pass -/

/-- what a rule does to the settings; rules without a step to be checked are as they are -/
def Rule.applied? (t : Target) (sensor : SensorModel) (s : Settings) : Rule → Option (Fixed Settings)
  | serialPorts => do
    let fixed ← fixPorts? s.serial
    some do return { s with serial := ← fixed }
  | filterOrdering => orderFilters? s
  | ranges => fixRanges? t.capabilities s
  | loopTiming => fixLoop? sensor s
  | peripherals => fixPeripherals? t.capabilities s
  | r => some (r.apply t sensor s)

/-- applies one rule -/
def Pass.step? (t : Target) (sensor : SensorModel) (p : Pass) (r : Rule) : Option Pass := do
  let fixed ← r.applied? t sensor p.settings
  some ⟨fixed.value, if fixed.changed then p.report.insert r else p.report⟩

/-- applies every rule once -/
def repair? (t : Target) (sensor : SensorModel) (s : Settings) : Option Pass :=
  Rule.list.foldlM (Pass.step? t sensor) ⟨s, .empty⟩

/-! ## Every step has a result -/

/-- each port is compared with the slice of those in front of it -/
theorem portsValid?_eq (rest : List SerialPort) :
    ∀ front : List SerialPort, (front.map SerialPort.name).Nodup →
      portsValid? (front ++ rest) rest front.length =
        some (decide (((front ++ rest).map SerialPort.name).Nodup ∧ ∀ p ∈ rest, p.Shares)) := by
  induction rest with
  | nil =>
    intro front hfront
    rw [List.append_nil, portsValid?, decide_eq_true ⟨hfront, by simp⟩]
  | cons p rest ih =>
    intro front hfront
    have hslice : front.length ≤ (front ++ p :: rest).length := by
      rw [List.length_append]
      exact Nat.le_add_right _ _
    rw [portsValid?, if_pos hslice, List.take_left, Option.bind_eq_bind, Option.bind_some]
    dsimp only
    split_ifs with hname hshares
    · rw [decide_eq_false]
      rintro ⟨hnodup, -⟩
      rw [List.map_append, List.nodup_append] at hnodup
      exact hnodup.2.2 p.name hname p.name List.mem_cons_self rfl
    · have hnext : ((front ++ [p]).map SerialPort.name).Nodup := by
        rw [List.map_append, List.nodup_append]
        refine ⟨hfront, List.nodup_singleton _, fun n hn m hm heq => hname ?_⟩
        rwa [← List.mem_singleton.1 hm, ← heq]
      have hbehind := ih (front ++ [p]) hnext
      rw [List.append_assoc, List.length_append] at hbehind
      refine hbehind.trans (congrArg some (decide_eq_decide.2 (and_congr_right fun _ => ?_)))
      rw [List.forall_mem_cons, and_iff_right hshares]
    · rw [decide_eq_false fun h => hshares (h.2 p List.mem_cons_self)]

theorem fixPorts?_eq (s : SerialPorts) : fixPorts? s = some (fixPorts s) := by
  have hvalid : portsValid? s.ports.items s.ports.items 0 = _ := portsValid?_eq s.ports.items [] List.nodup_nil
  rw [fixPorts?, hvalid, Option.bind_eq_bind, Option.bind_some]
  simp only [decide_eq_true_eq, List.nil_append, and_assoc]
  rfl

theorem slots?_eq {α β : Type} {n : Nat} {f : α → Option (Fixed β)} {g : α → Fixed β} (h : ∀ a, f a = some (g a))
    (v : Vector α n) : slots? f v = some (.slots g v) := by
  have hmap : v.mapM f = some (v.map g) := by
    rw [show f = fun a => pure (g a) from funext h]
    exact Vector.mapM_pure g
  rw [slots?, hmap, Option.bind_eq_bind, Option.bind_some, Fixed.slots, Fixed.slots]
  simp only [Vector.map_map, Vector.toList_map, List.any_map]
  rfl

theorem orderFilters?_eq (s : Settings) : orderFilters? s = some (orderFilters s) := by
  have hprofile : ∀ p, orderProfile? p = some (orderProfile p) := fun _ => rfl
  rw [orderFilters?, slots?_eq hprofile]
  rfl

theorem fixPeripherals?_eq (caps : Capabilities) (s : Settings) :
    fixPeripherals? caps s = some (fixPeripherals caps s) := by
  have hprofile : ∀ r p, fixUnsmoothed? r p = some (fixUnsmoothed r p) := fun _ _ => rfl
  rw [fixPeripherals?, slots?_eq (hprofile _)]
  rfl

theorem fixRanges?_eq (caps : Capabilities) (s : Settings) : fixRanges? caps s = some (fixRanges caps s) := rfl

/-! ### Timing -/

theorem nanos_restriction (o : MotorOutput) : (restriction o).nanos = Timing.updateRestriction o.protocol :=
  Duration.nanos_ofNanos (Timing.updateRestriction_le o.protocol)

theorem limitPulseRate?_eq (o : MotorOutput) : limitPulseRate? o = some (limitPulseRate o) := by
  rw [limitPulseRate?, restriction, Duration.maxUpdateRate?_ofNanos (Timing.updateRestriction_le o.protocol),
    limitPulseRate]
  split_ifs with h
  · simp only [Fixed.assignIf, h, true_and, Option.bind_eq_bind, Option.bind_some]
  · rw [Fixed.assignIf, if_neg fun hall => h ⟨hall.1, hall.2.1⟩]

theorem nanos_samplingInterval (sensor : SensorModel) (lowpass : HardwareLowpass) :
    (Duration.ofNanos (Timing.samplingInterval sensor lowpass)).nanos = Timing.samplingInterval sensor lowpass :=
  Duration.nanos_ofNanos (Timing.samplingInterval_le sensor lowpass)

theorem slowEnough?_eq (o : MotorOutput) (sensor : SensorModel) (lowpass : HardwareLowpass)
    (syncDenom processDenom : UInt8) :
    slowEnough? o (.ofNanos (Timing.samplingInterval sensor lowpass)) syncDenom processDenom =
      some (slowEnough o (Timing.samplingInterval sensor lowpass) syncDenom processDenom) := by
  have hfits := Timing.controlLoopPeriod_fits sensor lowpass syncDenom processDenom
  rw [← nanos_samplingInterval] at hfits
  obtain ⟨period, hperiod, hnanos⟩ := Duration.exists_loopPeriod? hfits
  have hslow : restriction o ≤ period ↔
      ¬ Timing.controlLoopPeriod (Timing.samplingInterval sensor lowpass) syncDenom processDenom <
        Timing.updateRestriction o.protocol := by
    rw [Duration.le_iff_nanos_le, hnanos, nanos_restriction, nanos_samplingInterval, Nat.not_lt]
  unfold slowEnough? slowEnough
  by_cases hunsynced : o.unsynced
  · simp only [hunsynced, if_true, not_true, false_and, if_false]
  · rw [if_neg hunsynced, hperiod, Option.bind_eq_bind, Option.bind_some, Duration.minProcessDenom?_eq,
      nanos_restriction, nanos_samplingInterval, Option.bind_eq_bind, Option.bind_some]
    simp only [hslow, hunsynced, not_false_eq_true, true_and, Bool.false_eq_true]
    split_ifs <;> rfl

theorem fixLoop?_eq (sensor : SensorModel) (s : Settings) : fixLoop? sensor s = some (fixLoop sensor s) := by
  have hmultiple := Timing.times?_sync sensor s.gyro.hardwareLowpass (startDenoms s).1
  rw [← nanos_samplingInterval, ← Duration.times?_nanos, Option.map_eq_some_iff] at hmultiple
  obtain ⟨gyroPeriod, hgyro, hnanos⟩ := hmultiple
  have hfast : gyroPeriod ≤ .ofNanos Timing.dynamicFilterLimit ↔
      ¬ Timing.dynamicFilterLimit <
        Timing.samplingInterval sensor s.gyro.hardwareLowpass * (startDenoms s).1.toNat := by
    rw [Duration.le_iff_nanos_le, hnanos, nanos_samplingInterval,
      Duration.nanos_ofNanos (n := Timing.dynamicFilterLimit) (by decide), Nat.not_lt]
  rw [fixLoop?]
  dsimp only
  rw [limitPulseRate?_eq, slowEnough?_eq, hgyro]
  simp only [Option.bind_eq_bind, Option.bind_some, hfast, ite_not]
  rfl

/-! ### The rules -/

theorem Rule.applied?_eq (t : Target) (sensor : SensorModel) (s : Settings) (r : Rule) :
    r.applied? t sensor s = some (r.apply t sensor s) := by
  cases r with
  | serialPorts =>
    rw [applied?, fixPorts?_eq]
    rfl
  | filterOrdering => exact orderFilters?_eq s
  | ranges => exact fixRanges?_eq t.capabilities s
  | loopTiming => exact fixLoop?_eq sensor s
  | peripherals => exact fixPeripherals?_eq t.capabilities s
  | _ => rfl

/-- **A pass comes to its end.** Every step of every rule has a result, on all settings. -/
theorem repair?_eq (t : Target) (sensor : SensorModel) (s : Settings) :
    repair? t sensor s = some (repair t sensor s) := by
  have hstep : Pass.step? t sensor = fun p r => pure (Pass.step t sensor p r) := by
    funext p r
    rw [Pass.step?, r.applied?_eq]
    rfl
  rw [repair?, hstep]
  exact List.foldlM_pure

end Repair
end FlightStore
