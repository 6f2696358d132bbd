/-
Resets of settings: complete, and done in full or not at all.

A full reset forgets what was held (`Settings.resetAll_eq`). The defaults of a target, and what its builder of custom
defaults makes of them, are therefore fixed by the target alone: `Target.Builds` and `Target.Refuses` are the two things
that can come of the builder. `Settings.Resets` says what that means for settings: a reset to custom defaults ends in
what the builder makes of the defaults, or in the settings from before, and the target decides which
(`resetToCustom_eq_ok_iff`, `resetToCustom_eq_error_iff`).
-/
import FlightStore.Proofs.Settings.Parts

namespace FlightStore

/-! ## What the builder of custom defaults comes to -/

namespace Target

/-- custom defaults are to be had: there is a builder, and it makes these settings of the defaults -/
def Builds (t : Target) (built : Settings) : Prop :=
  ∃ build, t.customDefaults = some build ∧ build (.defaults t) = (built, .ok ())

/-- custom defaults are not to be had: there is no builder, or it fails on the defaults, whatever it leaves of them -/
def Refuses (t : Target) (e : DefaultsError) : Prop :=
  (t.customDefaults = none ∧ e = .unavailable) ∨
    ∃ build left, t.customDefaults = some build ∧ build (.defaults t) = (left, .error e)

/-- custom defaults are to be had or they are not -/
theorem builds_or_refuses (t : Target) : (∃ built, t.Builds built) ∨ ∃ e, t.Refuses e := by
  rcases hbuilder : t.customDefaults with _ | build
  · exact .inr ⟨.unavailable, .inl ⟨hbuilder, rfl⟩⟩
  · rcases hbuilt : build (.defaults t) with ⟨built, e | ⟨⟩⟩
    · exact .inr ⟨e, .inr ⟨build, built, hbuilder, hbuilt⟩⟩
    · exact .inl ⟨built, build, hbuilder, hbuilt⟩

end Target

/-! ## Settings -/

namespace Settings

variable {t : Target} {built : Settings} {e : DefaultsError}

/-- custom defaults are taken whatever the settings were, because the builder starts from the defaults -/
theorem resetToCustom_of_builds (h : t.Builds built) (s : Settings) : s.resetToCustom t = (built, .ok ()) := by
  obtain ⟨build, hbuilder, hbuilt⟩ := h
  unfold resetToCustom
  rw [hbuilder]
  dsimp only
  rw [resetAll_eq, hbuilt]

/-- settings stay as they are if custom defaults are not to be had -/
theorem resetToCustom_of_refuses (h : t.Refuses e) (s : Settings) : s.resetToCustom t = (s, .error e) := by
  unfold resetToCustom
  rcases h with ⟨hnone, rfl⟩ | ⟨build, left, hbuilder, hfailed⟩
  · rw [hnone]
  · rw [hbuilder]
    dsimp only
    rw [resetAll_eq, hfailed]

theorem resetToCustom_eq_ok_iff (s s' : Settings) : s.resetToCustom t = (s', .ok ()) ↔ t.Builds s' := by
  constructor
  · intro h
    rcases t.builds_or_refuses with ⟨built, hbuilds⟩ | ⟨e, hrefuses⟩
    · have heq := (resetToCustom_of_builds hbuilds s).symm.trans h
      obtain rfl : built = s' := congrArg Prod.fst heq
      exact hbuilds
    · have heq := (resetToCustom_of_refuses hrefuses s).symm.trans h
      cases congrArg Prod.snd heq
  · intro h
    exact resetToCustom_of_builds h s

theorem resetToCustom_eq_error_iff (s s' : Settings) (e : DefaultsError) :
    s.resetToCustom t = (s', .error e) ↔ s' = s ∧ t.Refuses e := by
  constructor
  · intro h
    rcases t.builds_or_refuses with ⟨built, hbuilds⟩ | ⟨found, hrefuses⟩
    · have heq := (resetToCustom_of_builds hbuilds s).symm.trans h
      cases congrArg Prod.snd heq
    · have heq := (resetToCustom_of_refuses hrefuses s).symm.trans h
      obtain ⟨rfl, herror⟩ := Prod.ext_iff.1 heq
      obtain rfl : found = e := Except.error.inj herror
      exact ⟨rfl, hrefuses⟩
  · rintro ⟨rfl, h⟩
    exact resetToCustom_of_refuses h s'

/-- what resets make of settings -/
structure Resets (t : Target) (s : Settings) : Prop where
  /-- a full reset gives the defaults -/
  full : s.resetAll t = defaults t
  /-- a reset to custom defaults succeeds exactly if they are to be had, and gives them -/
  taken : ∀ s', s.resetToCustom t = (s', .ok ()) ↔ t.Builds s'
  /-- it fails exactly if they are not, for the reason they are not, and gives the settings from before -/
  refused : ∀ s' e, s.resetToCustom t = (s', .error e) ↔ s' = s ∧ t.Refuses e

/-- settings never have a say in what a reset makes of them -/
theorem resets (t : Target) (s : Settings) : s.Resets t where
  full := resetAll_eq t s
  taken := resetToCustom_eq_ok_iff s
  refused := resetToCustom_eq_error_iff s

end Settings

end FlightStore
