/-
The radio input after repair.

Which radio input is on after a pass is settled by the rule for radio inputs, since the rules behind it leave radio
inputs alone (`mem_repair_iff`). `RadioWins` says which one wins, without the steps of the rule: the first of
`radioPriority` among the eligible features, or else the default of the target if nothing stands against it.

Results:
- `radioWins_iff`: for a target that falls back to one radio input, the inputs that are on after a pass are the winner.
- `radioExclusive_iff`: for any target, two inputs are on after a pass only where the target falls back to two of them,
  and the rule reports a change without one only where it falls back to features that were on before.

Witness:
- `radios_of_two_defaults`: a default of two inputs puts both on, and an empty default is reported as a change.
-/
import FlightStore.Proofs.Repair.Stages

namespace FlightStore.Repair

variable {t : Target} {fs : FeatureSet} {f : Feature}

/-! ## What the choice is made from -/

/-- no two radio inputs are on -/
def AtMostOneRadio (fs : FeatureSet) : Prop := ∀ f ∈ radioPriority, ∀ g ∈ radioPriority, f ∈ fs → g ∈ fs → f = g

/-- the features that the board supports, while software SPI is on without those on its pins -/
def eligible (t : Target) (fs : FeatureSet) : FeatureSet :=
  let supported := fs \ unsupported t.capabilities
  if .softSpi ∈ supported then supported \ .ofList [.rxPpm, .rxParallelPwm, .softSerial] else supported

theorem eligible_eq (t : Target) (fs : FeatureSet) :
    eligible t fs = (fs \ unsupported t.capabilities) \ excluded (fs \ unsupported t.capabilities) := by
  simp only [eligible, excluded]
  split_ifs
  · rfl
  · rw [FlagSet.sdiff_empty]

/-- the target falls back to its default: no radio input is left, and the default is neither unsupported nor on the
pins of software SPI -/
structure FallsBack (t : Target) (fs : FeatureSet) : Prop where
  none_left : ∀ f ∈ radioPriority, f ∉ fs
  supported : ¬ (unsupported t.capabilities).Meets t.defaultRadio
  free : .softSpi ∈ fs → ¬ softSpiExcluded.Meets t.defaultRadio

theorem not_excluded_meets_iff {ds : FeatureSet} :
    ¬ (excluded fs).Meets ds ↔ (.softSpi ∈ fs → ¬ softSpiExcluded.Meets ds) := by
  unfold excluded
  split_ifs with hspi
  · simp [hspi]
  · simp [hspi, FlagSet.meets_comm]

/-- the test of the rule, once no radio input is left -/
theorem fallsBack_iff (hnone : ∀ f ∈ radioPriority, f ∉ fs) :
    FallsBack t fs ↔ Supports t.capabilities t.defaultRadio ∧ ¬ (excluded fs).Meets t.defaultRadio := by
  constructor
  · intro h
    exact ⟨h.supported, not_excluded_meets_iff.2 h.free⟩
  · rintro ⟨hsupported, hfree⟩
    exact ⟨hnone, hsupported, not_excluded_meets_iff.1 hfree⟩

/-! ## The rule -/

/-- a radio input is on after the choice if it is the first one left, or if none is left and it is in the default -/
theorem mem_selectRadio_iff (hf : f ∈ radioPriority) {left : FeatureSet} (hleft : fs \ excluded fs = left) :
    f ∈ (selectRadio t fs).value ↔
      radioPriority.find? (· ∈ left) = some f ∨ FallsBack t left ∧ f ∈ t.defaultRadio := by
  rw [selectRadio_value t fs hleft]
  cases hfind : radioPriority.find? (· ∈ left) with
  | some input =>
    have hin : input ∈ left := by simpa using List.find?_some hfind
    have hback : ¬ FallsBack t left := fun h => h.none_left input (List.mem_of_find?_eq_some hfind) hin
    have hradio : f ∈ radioInputs := FlagSet.mem_ofList.2 hf
    simp only [FlagSet.mem_sdiff, FlagSet.mem_erase, hradio, true_and, not_not, hback, false_and, or_false,
      Option.some.injEq]
    constructor
    · rintro ⟨-, rfl⟩
      rfl
    · rintro rfl
      exact ⟨hin, rfl⟩
  | none =>
    have hnone : ∀ g ∈ radioPriority, g ∉ left := by simpa using hfind
    simp only [reduceCtorEq, false_or]
    split_ifs with hback
    · have hfalls : FallsBack t left := (fallsBack_iff hnone).2 hback
      simp [hfalls, hnone f hf]
    · have hfalls : ¬ FallsBack t left := mt (fallsBack_iff hnone).1 hback
      simp [hfalls, hnone f hf]

/-- the choice leaves nothing on the pins of software SPI -/
theorem selectRadio_not_meets_excluded (t : Target) (fs : FeatureSet) :
    ¬ (selectRadio t fs).value.Meets (excluded fs) := by
  have hleft : ¬ (fs \ excluded fs).Meets (excluded fs) := FlagSet.not_meets_sdiff _ _
  rw [selectRadio_value t fs rfl, excluded_sdiff_excluded]
  split
  · exact FlagSet.not_meets_mono hleft (FlagSet.sdiff_subset _ _)
  · split_ifs with hsup
    · rw [FlagSet.union_meets]
      exact not_or.2 ⟨hleft, fun hd => hsup.2 (FlagSet.meets_comm.1 hd)⟩
    · exact hleft

theorem union_eq_left_iff {ds : FeatureSet} : fs ∪ ds = fs ↔ ds ⊆ fs := by
  rw [FlagSet.subset_iff]
  constructor
  · intro h i hi
    rw [← h]
    simp [hi]
  · intro h
    refine FlagSet.ext_bits fun i => ?_
    have := h i
    cases hd : ds.bits.getLsbD i <;> simp_all

/-- the rule reports a change without one exactly where it switches on a default that was on already -/
theorem changed_selectRadio_iff (t : Target) (fs : FeatureSet) :
    (selectRadio t fs).changed = true ∧ (selectRadio t fs).value = fs ↔
      ¬ fs.Meets (excluded fs) ∧ FallsBack t fs ∧ t.defaultRadio ⊆ fs := by
  by_cases hbarred : fs.Meets (excluded fs)
  · refine iff_of_false (fun h => ?_) (fun h => h.1 hbarred)
    have hcut := selectRadio_not_meets_excluded t fs
    rw [h.2] at hcut
    exact hcut hbarred
  · simp only [selectRadio, disable_eq_pure hbarred, pure_bind, hbarred, not_false_eq_true, true_and]
    cases hfind : radioPriority.find? (· ∈ fs) with
    | some input =>
      have hin : input ∈ fs := by simpa using List.find?_some hfind
      refine iff_of_false (fun h => ?_) (fun h => h.1.none_left input (List.mem_of_find?_eq_some hfind) hin)
      -- a report of this case says that another input was on, and that one is off now
      have hmeets : fs.Meets (radioInputs.erase input) := of_decide_eq_true h.1
      have hcut := FlagSet.not_meets_sdiff fs (radioInputs.erase input)
      rw [show fs \ radioInputs.erase input = fs from h.2] at hcut
      exact hcut hmeets
    | none =>
      have hnone : ∀ g ∈ radioPriority, g ∉ fs := by simpa using hfind
      dsimp only
      split_ifs with hback
      · have hfalls : FallsBack t fs := (fallsBack_iff hnone).2 hback
        simp [hfalls, union_eq_left_iff]
      · have hfalls : ¬ FallsBack t fs := mt (fallsBack_iff hnone).1 hback
        exact iff_of_false (fun h => h.1.elim) (fun h => hfalls h.1)

/-! ## The whole pass -/

/-- the rules behind the choice leave radio inputs alone, and those in front of it only take away what is not supported -/
theorem mem_repair_iff (t : Target) (sensor : SensorModel) (s : Settings) (hf : f ∈ radioPriority) :
    f ∈ (repair t sensor s).settings.features ↔
      f ∈ (selectRadio t (s.features \ unsupported t.capabilities)).value := by
  have hradio : f ∈ radioInputs.insert .softSpi := FlagSet.mem_insert.2 (Or.inl (FlagSet.mem_ofList.2 hf))
  refine repair_keeps (P := fun s' => f ∈ s'.features ↔ f ∈ (selectRadio t _).value) .rxExclusion
    (fun q hq s' h => ?_) Iff.rfl
  have htrims : Trims s'.features (q.apply t sensor s').value.features := Rule.trims_apply hq
  exact (htrims.mem_iff hradio).trans h

/-- the radio input that wins among eligible features -/
inductive RadioWins (t : Target) (fs : FeatureSet) : Feature → Prop where
  /-- the first one that is on, in the order of `radioPriority` -/
  | first {before after : List Feature} {f : Feature} (horder : radioPriority = before ++ f :: after)
      (hbefore : ∀ g ∈ before, g ∉ fs) (hf : f ∈ fs) : RadioWins t fs f
  /-- the default, if none is on and the board supports it and software SPI leaves its pins alone -/
  | fallback {f : Feature} (hnone : ∀ g ∈ radioPriority, g ∉ fs) (hdefault : t.defaultRadio = .only f)
      (hsupported : f ∉ unsupported t.capabilities) (hfree : .softSpi ∈ fs → f ∉ softSpiExcluded) : RadioWins t fs f

theorem find?_radioPriority_iff :
    radioPriority.find? (· ∈ fs) = some f ↔
      ∃ before after, radioPriority = before ++ f :: after ∧ (∀ g ∈ before, g ∉ fs) ∧ f ∈ fs := by
  rw [List.find?_eq_some_iff_append]
  constructor
  · rintro ⟨hf, before, after, horder, hbefore⟩
    exact ⟨before, after, horder, by simpa using hbefore, by simpa using hf⟩
  · rintro ⟨before, after, horder, hbefore, hf⟩
    exact ⟨by simpa using hf, before, after, horder, by simpa using hbefore⟩

/-- **The winner is on, and nothing else.** For all settings, every sensor and every target that falls back to one radio
input: after a pass the radio inputs that are on are exactly the one that wins among the eligible features. -/
theorem radioWins_iff (t : Target) (ht : t.HasRadioDefault) (sensor : SensorModel) (s : Settings) (f : Feature) :
    f ∈ radioPriority ∧ f ∈ (repair t sensor s).settings.features ↔ RadioWins t (eligible t s.features) f := by
  obtain ⟨d, hd, hdefault⟩ := ht
  constructor
  · rintro ⟨hf, hon⟩
    rw [mem_repair_iff t sensor s hf, mem_selectRadio_iff hf (eligible_eq t s.features).symm] at hon
    rcases hon with hfirst | ⟨hback, hmem⟩
    · obtain ⟨before, after, horder, hbefore, hin⟩ := find?_radioPriority_iff.1 hfirst
      exact .first horder hbefore hin
    · obtain ⟨hnone, hsupported, hfree⟩ := hback
      rw [hdefault] at hmem hsupported hfree
      obtain rfl := FlagSet.mem_only.1 hmem
      simp only [FlagSet.meets_only] at hsupported hfree
      exact .fallback hnone hdefault hsupported hfree
  · intro hwins
    have hf : f ∈ radioPriority := by
      cases hwins with
      | first horder _ _ => simp [horder]
      | fallback _ hfd _ _ =>
        have hself : f ∈ t.defaultRadio := by simp [hfd]
        rw [hdefault, FlagSet.mem_only] at hself
        rwa [hself]
    refine ⟨hf, ?_⟩
    rw [mem_repair_iff t sensor s hf, mem_selectRadio_iff hf (eligible_eq t s.features).symm]
    cases hwins with
    | first horder hbefore hin => exact Or.inl (find?_radioPriority_iff.2 ⟨_, _, horder, hbefore, hin⟩)
    | fallback hnone hfd hsupported hfree =>
      refine Or.inr ⟨⟨hnone, ?_, fun hspi => ?_⟩, by simp [hfd]⟩
      · simpa [hfd] using hsupported
      · simpa [hfd] using hfree hspi

/-- a board on the host that falls back to a companion device -/
def companion : Target := { Target.host with defaultRadio := .only .rxMsp }

/-- settings with software SPI and two inputs on its pins -/
def sharedPins : Settings := { features := .ofList [.softSpi, .rxPpm, .rxParallelPwm] }

/-- software SPI takes the pins of both inputs, so the companion device wins -/
theorem radioWins_sharedPins :
    companion.HasRadioDefault ∧
      (.rxMsp ∈ radioPriority ∧ .rxMsp ∈ (repair companion .bmi160 sharedPins).settings.features) ∧
      ¬ (.rxPpm ∈ radioPriority ∧ .rxPpm ∈ (repair companion .bmi160 sharedPins).settings.features) := by
  have hdefault : companion.HasRadioDefault := by decide
  refine ⟨hdefault, ?_, fun hon => ?_⟩
  · refine (radioWins_iff companion hdefault .bmi160 sharedPins .rxMsp).2 (.fallback ?_ rfl ?_ ?_) <;> decide
  · have hnone : ∀ g ∈ radioPriority, g ∉ eligible companion sharedPins.features := by decide
    have hwins := (radioWins_iff companion hdefault .bmi160 sharedPins .rxPpm).1 hon
    cases hwins with
    | first horder _ hin => exact hnone _ (by simp [horder]) hin
    | fallback _ hfd _ _ => exact absurd hfd (by decide)

/-! ## Any default -/

/-- **Radio inputs exclude each other up to the default.** For all settings, every sensor and every target, whatever
features it names as default: at most one radio input is on after a pass, unless the target falls back to a default with
more than one. The choice reports a change without making one exactly if it falls back to features that were on. -/
theorem radioExclusive_iff (t : Target) (sensor : SensorModel) (s : Settings) :
    (AtMostOneRadio (repair t sensor s).settings.features ↔
      (FallsBack t (eligible t s.features) → AtMostOneRadio t.defaultRadio)) ∧
    ∀ fs : FeatureSet, (selectRadio t fs).changed = true ∧ (selectRadio t fs).value = fs ↔
      ¬ fs.Meets (excluded fs) ∧ FallsBack t fs ∧ t.defaultRadio ⊆ fs := by
  refine ⟨?_, changed_selectRadio_iff t⟩
  have hon : ∀ f ∈ radioPriority, (f ∈ (repair t sensor s).settings.features ↔
      radioPriority.find? (· ∈ eligible t s.features) = some f ∨
        FallsBack t (eligible t s.features) ∧ f ∈ t.defaultRadio) := fun f hf =>
    (mem_repair_iff t sensor s hf).trans (mem_selectRadio_iff hf (eligible_eq t s.features).symm)
  constructor
  · intro hone hback f hf g hg hfd hgd
    exact hone f hf g hg ((hon f hf).2 (Or.inr ⟨hback, hfd⟩)) ((hon g hg).2 (Or.inr ⟨hback, hgd⟩))
  · intro hdefault f hf g hg hfs hgs
    rcases (hon f hf).1 hfs with hfirst | ⟨hback, hfd⟩ <;> rcases (hon g hg).1 hgs with hgfirst | ⟨hback', hgd⟩
    · exact Option.some.inj (hfirst.symm.trans hgfirst)
    · exact absurd (by simpa using List.find?_some hfirst) (hback'.none_left f hf)
    · exact absurd (by simpa using List.find?_some hgfirst) (hback.none_left g hg)
    · exact hdefault hback f hf g hg hfd hgd

/-- a target on the host that names two radio inputs as default -/
def twoDefaults : Target := { Target.host with defaultRadio := .ofList [.rxSerial, .rxMsp] }

/-- a target on the host that names no feature as default -/
def noDefault : Target := { Target.host with defaultRadio := .empty }

/-- **A default is taken as it is.** Without a radio input in the settings, a target that names two puts both on, and for
a target that names none the choice reports a change although nothing is another. -/
theorem radios_of_two_defaults :
    ¬ AtMostOneRadio (repair twoDefaults .bmi160 {}).settings.features ∧
      (selectRadio noDefault .empty).changed = true ∧ (selectRadio noDefault .empty).value = .empty := by
  refine ⟨fun hone => ?_, by decide, by decide⟩
  have hserial : .rxSerial ∈ (repair twoDefaults .bmi160 {}).settings.features :=
    (mem_repair_iff twoDefaults .bmi160 {} (by decide)).2 (by decide)
  have hmsp : .rxMsp ∈ (repair twoDefaults .bmi160 {}).settings.features :=
    (mem_repair_iff twoDefaults .bmi160 {} (by decide)).2 (by decide)
  exact absurd (hone .rxSerial (by decide) .rxMsp (by decide) hserial hmsp) (by decide)

end FlightStore.Repair
