/-
A repair pass leaves every fact behind, and a second pass has nothing to do.

`run_holds` carries the facts of the rules that have run through the rest of a pass, by induction on the rules that are
left. `repair_holds` is its instance for the whole pass, `repair_eq_self` the converse: where every fact holds, a pass
changes and reports nothing. Both together make repair idempotent. Only the choice of the radio input asks something of
the target (`Rule.Suits`), so the facts of all other rules hold for every target.
-/
import FlightStore.Proofs.Repair.Lasting

namespace FlightStore.Repair

variable {t : Target} {sensor : SensorModel}

theorem before_of_list : Rule.list.Pairwise Rule.Before := by decide

theorem mem_list (r : Rule) : r ∈ Rule.list := by cases r <;> decide

/-- every rule finds its fact -/
def Settled (t : Target) (sensor : SensorModel) (s : Settings) : Prop := ∀ r : Rule, r.Holds t sensor s

/-- one rule keeps the facts of the rules before it and adds its own -/
theorem step_holds {done : List Rule} {r : Rule} {p : Pass} (hbefore : ∀ q ∈ done, q.Before r)
    (hdone : ∀ q ∈ done, q.Suits t → q.Holds t sensor p.settings) :
    ∀ q ∈ done ++ [r], q.Suits t → q.Holds t sensor (Pass.step t sensor p r).settings := by
  intro q hq hsuits
  rcases List.mem_append.1 hq with hq | hq
  · exact Rule.holds_apply_of_before (hbefore q hq) (hdone q hq hsuits)
  · obtain rfl := List.mem_singleton.1 hq
    exact Rule.holds_apply hsuits sensor p.settings

/-- rules run in their order leave behind the facts of all of them that suit the target -/
theorem run_holds (todo : List Rule) :
    ∀ (done : List Rule) (p : Pass), (done ++ todo).Pairwise Rule.Before →
      (∀ q ∈ done, q.Suits t → q.Holds t sensor p.settings) →
      ∀ q ∈ done ++ todo, q.Suits t → q.Holds t sensor (todo.foldl (Pass.step t sensor) p).settings := by
  induction todo with
  | nil =>
    intro done p _ hdone q hq
    rw [List.append_nil] at hq
    exact hdone q hq
  | cons r todo ih =>
    intro done p horder hdone
    have hbefore : ∀ q ∈ done, q.Before r := fun q hq =>
      (List.pairwise_append.1 horder).2.2 q hq r List.mem_cons_self
    rw [List.append_cons] at horder ⊢
    exact ih (done ++ [r]) (Pass.step t sensor p r) horder (step_holds hbefore hdone)

/-- some rules of a pass, in their order, leave behind the facts of all of them that suit the target -/
theorem holds_of_mem {rs : List Rule} (horder : rs.Pairwise Rule.Before) {r : Rule} (hmem : r ∈ rs)
    (hr : r.Suits t) (p : Pass) : r.Holds t sensor (rs.foldl (Pass.step t sensor) p).settings :=
  run_holds rs [] p horder (fun _ hq => absurd hq List.not_mem_nil) r hmem hr

/-- **A pass leaves facts behind.** Whatever the settings were, after a pass a rule that suits the target finds its
fact. -/
theorem repair_holds {r : Rule} (hr : r.Suits t) (sensor : SensorModel) (s : Settings) :
    r.Holds t sensor (repair t sensor s).settings :=
  holds_of_mem before_of_list (mem_list r) hr ⟨s, .empty⟩

/-- **A pass settles.** Whatever the settings were, after a pass every rule finds its fact. -/
theorem repair_settled (ht : t.HasRadioDefault) (sensor : SensorModel) (s : Settings) :
    Settled t sensor (repair t sensor s).settings :=
  fun _ => repair_holds (fun _ => ht) sensor s

/-- rules that find their facts leave settings and report alone -/
theorem run_eq_self {s : Settings} (h : Settled t sensor s) (report : Report) (rs : List Rule) :
    rs.foldl (Pass.step t sensor) ⟨s, report⟩ = ⟨s, report⟩ := by
  induction rs with
  | nil => rfl
  | cons r rs ih =>
    have hstep : Pass.step t sensor ⟨s, report⟩ r = ⟨s, report⟩ := by
      unfold Pass.step
      rw [Rule.apply_eq_pure (h r)]
      rfl
    rw [List.foldl_cons, hstep]
    exact ih

theorem repair_eq_self {s : Settings} (h : Settled t sensor s) : repair t sensor s = ⟨s, .empty⟩ :=
  run_eq_self h .empty Rule.list

/-- **Repair is idempotent.** For all settings and every target that falls back to a radio input, a second pass reports
nothing and changes nothing. -/
theorem repair_idempotent (t : Target) (ht : t.HasRadioDefault) (sensor : SensorModel) (s : Settings) :
    repair t sensor (repair t sensor s).settings = ⟨(repair t sensor s).settings, .empty⟩ :=
  repair_eq_self (repair_settled ht sensor s)

/-- a craft that breaks most rules at once: GPS from a companion device on a port with MSP, two radio inputs next to
software SPI, reversible brushed motors, notches above the limit, denominators of zero under the slow lowpass, modes
linked to each other and indices past the last slot -/
def wrecked : Settings where
  system := { pidProfileIndex := 9, rateProfileIndex := 200 }
  features := .full
  serial.ports := ⟨[⟨.uart1, .ofList [.msp, .gps]⟩, ⟨.uart1, .full⟩], by decide⟩
  motor.output := { protocol := .brushed, telemetry := true }
  gyro := { hardwareLowpass := .oneKhzSample, syncDenom := 0, notch1 := 9000, notchCutoff1 := 8000 }
  pidLoop.processDenom := 0
  gps.provider := .msp
  modes := ⟨[.linked .angle .horizon, .linked .horizon .angle, .linked .arm .beeper], by decide⟩

theorem repair_idempotent_wrecked :
    Target.host.HasRadioDefault ∧
      repair .host .icm20649 (repair .host .icm20649 wrecked).settings =
        ⟨(repair .host .icm20649 wrecked).settings, .empty⟩ :=
  ⟨by decide, repair_idempotent .host (by decide) .icm20649 wrecked⟩

end FlightStore.Repair
