/-
Telemetry from the motors, from the settings to the running firmware.

Two rules of a pass decide whether telemetry stays on: the board has to be able to receive it, and protocol, output and
scheduler have to go with it. In between, an output that always toggles pins is eased where the protocol is too fast
for that. `TelemetryWorks` says what telemetry needs, in one place. Easing changes nothing about it
(`telemetry_fixOutput_iff`), so telemetry is on after a pass exactly if it was asked for and works
(`telemetry_repair_iff`).

Results:
- `motors_tuned`: after a pass the options of the motors go together, for every target, and a load that leaves telemetry
  on has tuned the scheduler for it.
Witness:
- `motors_tuned_erased`: a start from an erased medium that leaves telemetry on.
-/
import FlightStore.Proofs.Device.Runs
import FlightStore.Proofs.Device.Saving
import FlightStore.Proofs.Repair.Pacing

namespace FlightStore

/-- what telemetry from the motors needs: a digital protocol, a board that receives, a tuned scheduler, and an output
that can turn around -/
structure TelemetryWorks (caps : Capabilities) (tuning : SchedulerTuning) (o : MotorOutput) : Prop where
  digital : o.protocol.isDshot
  capable : .dshotTelemetry ∈ caps
  tuned : tuning ≠ .off
  /-- an output that sends in bursts cannot turn around, unless pins are toggled -/
  output : ¬ (o.bitbang = .off ∧ o.burst)
  /-- the fastest protocol is too fast for pins that are always toggled -/
  fastest : o.protocol = .proshot1000 → o.bitbang ≠ .on

/-- the output as the fastest protocol can have it: instead of always, pins are toggled where that fits -/
def MotorOutput.eased (o : MotorOutput) : MotorOutput :=
  if o.protocol = .proshot1000 ∧ o.bitbang = .on then { o with bitbang := .auto } else o

namespace Repair

variable {t : Target} {sensor : SensorModel} {s : Settings}

/-- an eased output works wherever the rule for protocols finds nothing against it -/
theorem telemetryWorks_eased_iff {caps : Capabilities} {tuning : SchedulerTuning} {o : MotorOutput} :
    TelemetryWorks caps tuning o.eased ↔ .dshotTelemetry ∈ caps ∧ ¬ TelemetryUnusable tuning o := by
  have hparts : ¬ TelemetryUnusable tuning o ↔
      o.protocol.isDshot ∧ ¬ (o.bitbang = .off ∧ o.burst) ∧ tuning ≠ .off := by
    rw [TelemetryUnusable, not_or, not_or, not_not]
  rw [hparts, MotorOutput.eased]
  split_ifs with hon
  · obtain ⟨hprotocol, hbitbang⟩ := hon
    constructor
    · rintro ⟨hdigital, hcapable, htuned, -, -⟩
      exact ⟨hcapable, hdigital, by simp [hbitbang], htuned⟩
    · rintro ⟨hcapable, hdigital, -, htuned⟩
      exact ⟨hdigital, hcapable, htuned, by simp, by simp⟩
  · constructor
    · rintro ⟨hdigital, hcapable, htuned, houtput, -⟩
      exact ⟨hcapable, hdigital, houtput, htuned⟩
    · rintro ⟨hcapable, hdigital, houtput, htuned⟩
      exact ⟨hdigital, hcapable, htuned, houtput, fun hprotocol hbitbang => hon ⟨hprotocol, hbitbang⟩⟩

/-- the output is eased before it is looked at, and that decides nothing -/
theorem telemetry_fixOutput_iff (tuning : SchedulerTuning) (o : MotorOutput) :
    (fixOutput tuning o).value.telemetry = true ↔ o.telemetry = true ∧ ¬ TelemetryUnusable tuning o := by
  have heased : (if o.protocol = .proshot1000 ∧ o.telemetry ∧ o.bitbang = .on then Bitbang.auto else o.bitbang) = .off ↔
      o.bitbang = .off := by
    split_ifs with hon
    · simp [hon.2.2]
    · rfl
  simp only [fixOutput, Fixed.value_bind, Fixed.value_pure, Fixed.value_assignIf, TelemetryUnusable, heased]
  split_ifs with hunusable
  · exact iff_of_false not_false fun h => h.2 hunusable
  · exact ⟨fun hon => ⟨hon, hunusable⟩, And.left⟩

/-! ## Through the pass -/

namespace Rule

/-- on a board that receives, no rule in front of the one for protocols changes the output -/
theorem output_apply (hcap : .dshotTelemetry ∈ t.capabilities) {r : Rule} (hr : r.Before motorProtocol) (s : Settings) :
    (r.apply t sensor s).value.motor.output = s.motor.output := by
  cases r with
  | capabilities => simp [apply, disableUnsupported, hcap]
  | ranges => rw [apply, fixRanges_value]
  | motorProtocol | loopTiming | peripherals | modeLinks | profileIndices => exact absurd hr (by decide)
  | _ => rfl

/-- behind the rule for protocols, no rule touches telemetry -/
theorem telemetry_apply {r : Rule} (hr : motorProtocol.Before r) (s : Settings) :
    (r.apply t sensor s).value.motor.output.telemetry = s.motor.output.telemetry := by
  cases r with
  | loopTiming => rw [apply, fixLoop_value]
  | peripherals => rw [apply, fixPeripherals_frame]
  | modeLinks | profileIndices => rfl
  | _ => exact absurd hr (by decide)

end Rule

/-- **Telemetry stays on exactly where it works.** -/
theorem telemetry_repair_iff (t : Target) (sensor : SensorModel) (s : Settings) :
    (repair t sensor s).settings.motor.output.telemetry = true ↔
      s.motor.output.telemetry = true ∧ TelemetryWorks t.capabilities s.system.schedulerTuning s.motor.output.eased := by
  rw [telemetryWorks_eased_iff]
  by_cases hcap : .dshotTelemetry ∈ t.capabilities
  · have hfound : (found t sensor s .motorProtocol).motor.output = s.motor.output :=
      found_keeps (P := fun s' => s'.motor.output = s.motor.output)
        (fun q hq s' h => (Rule.output_apply hcap hq s').trans h) rfl
    have hsystem : (found t sensor s .motorProtocol).system = s.system :=
      found_keeps (P := fun s' => s'.system = s.system)
        (fun q hq s' h => (Rule.system_apply (fun he => absurd (he ▸ hq) (by decide)) s').trans h) rfl
    have hafter : (repair t sensor s).settings.motor.output.telemetry =
        (fixOutput s.system.schedulerTuning s.motor.output).value.telemetry := by
      refine repair_keeps (P := fun s' => s'.motor.output.telemetry = _) .motorProtocol
        (fun q hq s' h => (Rule.telemetry_apply hq s').trans h) ?_
      rw [Rule.apply, fixProtocol_value, hfound, hsystem]
    rw [hafter, telemetry_fixOutput_iff]
    simp [hcap]
  · have hsupported : Supported t (repair t sensor s).settings :=
      repair_holds (r := .capabilities) (Rule.suits_of_ne (by decide)) sensor s
    simp [hsupported.telemetry hcap, hcap]

/-- the options of the motors in settings `s'` that a pass has made of `s` -/
structure MotorsAgree (t : Target) (s s' : Settings) : Prop where
  telemetry : s'.motor.output.telemetry = true →
    TelemetryWorks t.capabilities s'.system.schedulerTuning s'.motor.output
  /-- telemetry is on if it was asked for and works, and only then -/
  kept : s'.motor.output.telemetry = true ↔
    s.motor.output.telemetry = true ∧ TelemetryWorks t.capabilities s.system.schedulerTuning s.motor.output.eased
  synced : s'.motor.output.protocol.isDshot → s'.motor.output.unsynced = false
  reversing : s'.motor.output.protocol = .brushed → .threeD ∉ s'.features
  minCommand : s'.motor.output.protocol = .brushed → 1000 ≤ s'.motor.minCommand

theorem motorsAgree_repair (t : Target) (sensor : SensorModel) (s : Settings) :
    MotorsAgree t s (repair t sensor s).settings := by
  set s' := (repair t sensor s).settings with hs'
  have hholds : ∀ r : Rule, r ≠ .rxExclusion → r.Holds t sensor s' := fun r hr =>
    repair_holds (Rule.suits_of_ne hr) sensor s
  have hsupported : Supported t s' := hholds .capabilities (by decide)
  have hprotocol : ProtocolConsistent s' := hholds .motorProtocol (by decide)
  refine ⟨fun hon => ?_, telemetry_repair_iff t sensor s, hprotocol.synced, hprotocol.reversing, hprotocol.minCommand⟩
  have hcapable : .dshotTelemetry ∈ t.capabilities := by
    by_contra hcap
    rw [hsupported.telemetry hcap] at hon
    exact Bool.noConfusion hon
  have husable : ¬ TelemetryUnusable s'.system.schedulerTuning s'.motor.output := by
    intro hunusable
    rw [hprotocol.telemetry hunusable] at hon
    exact Bool.noConfusion hon
  -- what the pass leaves is eased already
  have heased : s'.motor.output.eased = s'.motor.output :=
    if_neg fun h => hprotocol.bitbang h.1 hon h.2
  rw [← heased]
  exact telemetryWorks_eased_iff.2 ⟨hcapable, husable⟩

end Repair

/-! ## To the firmware -/

/-- how a call tunes the scheduler -/
def Call.tuned? : Call → Option Bool
  | .tuneScheduler on => some on
  | _ => none

/-- settings with telemetry in use are handed over to a scheduler that is tuned once, for telemetry -/
theorem tuned_activation (t : Target) {s : Settings} (hon : s.motor.output.telemetry = true)
    (htuning : s.system.schedulerTuning ≠ .off) : (activation t s).filterMap Call.tuned? = [true] := by
  unfold activation activationWith
  cases htuned : s.system.schedulerTuning with
  | off => exact absurd htuned htuning
  | on => split_ifs <;> rfl
  | auto =>
    rw [hon]
    split_ifs <;> rfl

/-- calls that tune the scheduler for the telemetry of settings, if it is on -/
def TunesFor (s : Settings) (calls : List Call) : Prop :=
  s.motor.output.telemetry = true → calls.filterMap Call.tuned? = [true]

namespace Device

variable {σ ε : Type} [Storage σ ε]

theorem tunesFor_load (d : Device σ) : Adds (TunesFor d.load.2.settings) d d.load.2 := by
  refine ⟨d.bootCalls, calls_load d, fun hon => ?_⟩
  rw [settings_load] at hon
  have hworks := (Repair.motorsAgree_repair d.target d.sensor _).telemetry hon
  rw [bootCalls, filterMap_suspended rfl rfl, List.filterMap_append, filterMap_accesses fun _ => rfl, List.nil_append]
  exact tuned_activation d.target hon hworks.tuned

/-- **Telemetry is served.** For all settings, every target and every sensor, a pass leaves options of the motors that
go together, with telemetry on exactly where it was asked for and works. And whatever device loads whatever is stored,
if that leaves telemetry on, the load has tuned the scheduler. -/
theorem motors_tuned :
    (∀ (t : Target) (sensor : SensorModel) (s : Settings),
      Repair.MotorsAgree t s (Repair.repair t sensor s).settings) ∧
    ∀ d : Device σ, Adds (TunesFor d.load.2.settings) d d.load.2 :=
  ⟨Repair.motorsAgree_repair, tunesFor_load⟩

/-- telemetry over the fastest protocol, with pins always toggled -/
def fastestOutput : MotorOutput := { protocol := .proshot1000, telemetry := true, bitbang := .on }

/-- a device on the host, with an erased medium and telemetry over the fastest protocol -/
def fastestErased : Device Memory :=
  (Device.start .host ({} : Memory) .bmi160).setSettings { motor.output := fastestOutput }

/-- telemetry is kept, and the start tunes the scheduler for it -/
theorem motors_tuned_erased :
    fastestErased.load.2.settings.motor.output.telemetry = true ∧
      ∃ calls, fastestErased.load.2.calls = fastestErased.calls ++ calls ∧ calls.filterMap Call.tuned? = [true] := by
  have hradio : fastestErased.target.HasRadioDefault := show Target.host.HasRadioDefault by decide
  have hnothing : fastestErased.load.1 = false := by decide
  obtain ⟨hrepair, hload⟩ := motors_tuned (σ := Memory)
  have hon : fastestErased.load.2.settings.motor.output.telemetry = true := by
    rw [settings_of_not_loaded hradio hnothing]
    refine (hrepair _ _ _).kept.2 ⟨rfl, ?_⟩
    exact ⟨rfl, by decide, by decide, by decide, by decide⟩
  obtain ⟨calls, hcalls, htunes⟩ := hload fastestErased
  exact ⟨hon, calls, hcalls, htunes hon⟩

end Device
end FlightStore
