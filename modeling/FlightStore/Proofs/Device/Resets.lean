/-
Resets of a device: complete, and done in full or not at all.

What a reset makes of settings is fixed by the target alone (`Settings.Resets`), and `Device.Resets` says what that
means for a device. A reset that is refused leaves the whole device as it was, its medium and the trace of its calls
included, although the builder may have replaced any of the settings it was given before it failed.

Results:
- `resets_whole`: all of this for every device and any settings in its memory;
- `run_filter_refused`: on a target that refuses, resets to custom defaults can be left out of any run.

Witness: `resets_whole_halfway`, a builder that has changed the settings when it fails.
-/
import FlightStore.Proofs.Device.Runs

namespace FlightStore

/-- whether an operation asks for the custom defaults -/
def Operation.asksCustom : Operation → Bool
  | .reset custom => custom
  | _ => false

theorem Operation.eq_of_asksCustom {op : Operation} (h : op.asksCustom = true) : op = .reset true := by
  cases op with
  | reset custom => exact congrArg Operation.reset h
  | _ => exact Bool.noConfusion h

namespace Device

variable {σ ε : Type} [Storage σ ε] {d : Device σ} {built : Settings} {e : DefaultsError}

/-- a refused reset does nothing at all -/
theorem reset_of_refuses (h : d.target.Refuses e) : d.reset true = (false, d) := by
  unfold reset
  rw [if_pos rfl, ((Settings.resets d.target d.settings).refused d.settings e).2 ⟨rfl, h⟩]
  rfl

theorem reset_of_builds (h : d.target.Builds built) :
    d.reset true = (true, (d.setSettings built).writeUnmodified.2) := by
  unfold reset
  rw [if_pos rfl, ((Settings.resets d.target d.settings).taken built).2 h]

theorem reset_full (d : Device σ) : d.reset false = (true, (d.setSettings (.defaults d.target)).writeUnmodified.2) := by
  unfold reset
  rw [if_neg Bool.false_ne_true, (Settings.resets d.target d.settings).full]

/-- the answer of a reset to custom defaults is known from the target -/
theorem reset_eq_false_iff (d : Device σ) : (d.reset true).1 = false ↔ ∃ e, d.target.Refuses e := by
  constructor
  · intro h
    rcases d.target.builds_or_refuses with ⟨built, hbuilds⟩ | hrefuses
    · rw [reset_of_builds hbuilds] at h
      exact Bool.noConfusion h
    · exact hrefuses
  · rintro ⟨e, h⟩
    rw [reset_of_refuses h]

/-- a reset that is taken comes to the same whatever the settings in memory were -/
theorem reset_setSettings (s : Settings) {custom : Bool} (h : (d.reset custom).1 = true) :
    (d.setSettings s).reset custom = d.reset custom := by
  cases custom with
  | false => rw [reset_full, reset_full]; rfl
  | true =>
    rcases d.target.builds_or_refuses with ⟨built, hbuilds⟩ | ⟨e, hrefuses⟩
    · rw [reset_of_builds (d := d.setSettings s) hbuilds, reset_of_builds hbuilds]
      rfl
    · rw [reset_of_refuses hrefuses] at h
      exact Bool.noConfusion h

/-- what resets come to on a device -/
structure Resets (d : Device σ) : Prop where
  /-- the defaults and the custom defaults of the target replace any settings -/
  settings : ∀ s : Settings, s.Resets d.target
  /-- a full reset is always taken, and its result is stored -/
  full : d.reset false = (true, (d.setSettings (.defaults d.target)).writeUnmodified.2)
  /-- custom defaults are taken and stored if they are to be had -/
  taken : ∀ built, d.target.Builds built → d.reset true = (true, (d.setSettings built).writeUnmodified.2)
  /-- the reset is refused exactly if they are not -/
  answer : (d.reset true).1 = false ↔ ∃ e, d.target.Refuses e
  /-- a refused reset leaves the device as it was: settings, medium, marks, active slots and the trace of calls -/
  refused : (d.reset true).1 = false → (d.reset true).2 = d
  /-- a reset that is taken leaves nothing of the settings in memory -/
  forgets : ∀ s custom, (d.reset custom).1 = true → (d.setSettings s).reset custom = d.reset custom

/-- **Resets are complete, and done in full or not at all.** For every target, whatever its hook and its builder do, and
every state of a device: a full reset ends in the defaults, a reset to custom defaults in what the builder makes of the
defaults, and one for which the builder is missing or fails changes nothing and asks for nothing. -/
theorem resets_whole (d : Device σ) : d.Resets where
  settings := Settings.resets d.target
  full := reset_full d
  taken _ := reset_of_builds
  answer := reset_eq_false_iff d
  refused h := by
    obtain ⟨e, hrefuses⟩ := (reset_eq_false_iff d).1 h
    rw [reset_of_refuses hrefuses]
  forgets s _ := reset_setSettings s

/-! ## Runs -/

/-- **Refused resets can be left out.** On a target whose custom defaults are not to be had, any run of operations ends
in the same device, with the same calls made and the same medium, as the run without the resets to custom defaults. -/
theorem run_filter_refused (h : d.target.Refuses e) (ops : List Operation) :
    d.run (ops.filter fun op => !op.asksCustom) = d.run ops := by
  -- the target is the one thing that no operation changes, so it goes on refusing
  induction ops generalizing d with
  | nil => rfl
  | cons op ops ih =>
    have hnext : (d.perform op).target.Refuses e := by
      rw [target_perform]
      exact h
    cases hasks : op.asksCustom with
    | true =>
      have hnothing : d.perform op = d := by
        obtain rfl := Operation.eq_of_asksCustom hasks
        exact congrArg Prod.snd (reset_of_refuses h)
      rw [List.filter_cons_of_neg (by simp [hasks]), run_cons, hnothing]
      exact ih h
    | false =>
      rw [List.filter_cons_of_pos (by simp [hasks]), run_cons, run_cons]
      exact ih hnext

end Device

/-- a target whose builder of custom defaults fails after it has replaced a setting -/
def Target.halfway : Target :=
  { Target.host with
    customDefaults := some fun s =>
      ({ s with motor := { s.motor with minThrottle := 0 } }, .error (.invalid "corrupt")) }

/-- on such a target the reset is refused, and the throttle limit stays what it was -/
theorem Device.resets_whole_halfway :
    let d : Device Memory := .start .halfway {} .bmi160
    (d.reset true).1 = false ∧ (d.reset true).2.settings.motor.minThrottle = 1070 := by
  intro d
  have hrefuses : d.target.Refuses (.invalid "corrupt") := .inr ⟨_, _, rfl, rfl⟩
  have hanswer : (d.reset true).1 = false := d.resets_whole.answer.2 ⟨_, hrefuses⟩
  refine ⟨hanswer, ?_⟩
  rw [d.resets_whole.refused hanswer]
  rfl

end FlightStore
