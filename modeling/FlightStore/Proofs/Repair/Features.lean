/-
Features after repair: nothing unsupported, and one radio input at most.

`SingleRadio` is what the choice of the radio input leaves behind. The later rules only trim features: they take some
away that are neither a radio input nor software SPI (`Trims`), so that both `SingleRadio` and the absence of a feature
last.
-/
import FlightStore.Proofs.Repair.Settled
import FlightStore.Repair.Pass

namespace FlightStore

/-- the radio input to fall back to is one of the radio inputs -/
def Target.HasRadioDefault (t : Target) : Prop := ∃ f ∈ radioPriority, t.defaultRadio = .only f

instance (t : Target) : Decidable t.HasRadioDefault := by unfold Target.HasRadioDefault; infer_instance

namespace Repair

variable {t : Target} {fs gs hs : FeatureSet}

/-! ## Capabilities -/

/-- nothing is on that the board lacks -/
structure Supported (t : Target) (s : Settings) : Prop where
  features : ¬ s.features.Meets (unsupported t.capabilities)
  device : BlackboxDevice.Usable t.capabilities s.blackbox.device
  telemetry : .dshotTelemetry ∉ t.capabilities → s.motor.output.telemetry = false

theorem disableUnsupported_eq_pure {s : Settings} (h : Supported t s) : disableUnsupported t s = pure s := by
  have hdevice : ¬ ¬ BlackboxDevice.Usable t.capabilities s.blackbox.device := not_not.2 h.device
  unfold disableUnsupported
  rw [disable_eq_pure h.features, Fixed.assignIf_neg hdevice, Fixed.assignIf_eq_pure h.telemetry]
  rfl

theorem supported_disableUnsupported (t : Target) (s : Settings) : Supported t (disableUnsupported t s).value := by
  refine ⟨FlagSet.not_meets_sdiff _ _, ?_, fun ht => ?_⟩
  · simp only [disableUnsupported, Fixed.value_bind, Fixed.value_pure, Fixed.value_assignIf]
    split_ifs with h
    · exact h
    · trivial
  · simp [disableUnsupported, ht]

/-! ## The radio input -/

/-- at most one radio input is on, none that software SPI bars, and none at all only if the default cannot be on -/
structure SingleRadio (t : Target) (fs : FeatureSet) : Prop where
  barred : ¬ fs.Meets (excluded fs)
  single : ∀ f ∈ radioPriority, ∀ g ∈ radioPriority, f ∈ fs → g ∈ fs → f = g
  none_left : (∀ f ∈ radioPriority, f ∉ fs) →
    ¬ (Supports t.capabilities t.defaultRadio ∧ ¬ (excluded fs).Meets t.defaultRadio)

theorem excluded_congr (h : Feature.softSpi ∈ fs ↔ .softSpi ∈ gs) : excluded fs = excluded gs := by
  simp only [excluded, h]

/-- software SPI does not bar itself -/
theorem softSpi_not_mem_excluded (fs : FeatureSet) : Feature.softSpi ∉ excluded fs := by
  unfold excluded
  split_ifs <;> decide

theorem excluded_sdiff_excluded (fs : FeatureSet) : excluded (fs \ excluded fs) = excluded fs :=
  excluded_congr (by simp [softSpi_not_mem_excluded])

theorem selectRadio_eq_pure (h : SingleRadio t fs) : selectRadio t fs = pure fs := by
  simp only [selectRadio, disable_eq_pure h.barred, pure_bind]
  split
  · rename_i input hfind
    have hin : input ∈ fs := by simpa using List.find?_some hfind
    refine disable_eq_pure fun hm => ?_
    obtain ⟨f, hf, hne, hfs⟩ := FlagSet.meets_erase_ofList.1 hm
    exact hne (h.single f hf input (List.mem_of_find?_eq_some hfind) hfs hin)
  · rename_i hfind
    have hnone : ∀ f ∈ radioPriority, f ∉ fs := by simpa using hfind
    exact if_neg (h.none_left hnone)

/-- the features left by the choice of the radio input, where `left` are those that software SPI does not bar -/
theorem selectRadio_value (t : Target) (fs : FeatureSet) {left : FeatureSet} (hleft : fs \ excluded fs = left) :
    (selectRadio t fs).value =
      match radioPriority.find? (· ∈ left) with
      | some input => left \ radioInputs.erase input
      | none =>
        if Supports t.capabilities t.defaultRadio ∧ ¬ (excluded left).Meets t.defaultRadio then left ∪ t.defaultRadio
        else left := by
  subst hleft
  rw [excluded_sdiff_excluded]
  show Fixed.value (match radioPriority.find? (· ∈ fs \ excluded fs) with
    | some input => disable (fs \ excluded fs) (radioInputs.erase input)
    | none => if _ then _ else _) = _
  cases radioPriority.find? (· ∈ fs \ excluded fs) with
  | some input => rfl
  | none => exact apply_ite Fixed.value _ _ _

/-- **One radio input.** Whatever features were on, the choice leaves at most one radio input. -/
theorem singleRadio_selectRadio (ht : t.HasRadioDefault) (fs : FeatureSet) :
    SingleRadio t (selectRadio t fs).value := by
  obtain ⟨d, hd, hdefault⟩ := ht
  have hspi : ∀ f ∈ radioPriority, f ≠ .softSpi := by decide
  have hbarred : ¬ (fs \ excluded fs).Meets (excluded (fs \ excluded fs)) := by
    rw [excluded_sdiff_excluded]
    exact FlagSet.not_meets_sdiff _ _
  generalize hgs : fs \ excluded fs = gs at hbarred
  rw [selectRadio_value t fs hgs]
  split
  · rename_i input hfind
    have hin : input ∈ gs := by simpa using List.find?_some hfind
    have hmem := List.mem_of_find?_eq_some hfind
    have hleft : ∀ f ∈ radioPriority, f ∈ gs \ radioInputs.erase input → f = input := fun f hf hfs => by
      by_contra hne
      exact (FlagSet.mem_sdiff.1 hfs).2 (FlagSet.mem_erase.2 ⟨FlagSet.mem_ofList.2 hf, hne⟩)
    have hex : excluded (gs \ radioInputs.erase input) = excluded gs :=
      excluded_congr (by simp [show Feature.softSpi ∉ radioInputs by decide])
    refine ⟨?_, fun f hf g hg hfs hgs => (hleft f hf hfs).trans (hleft g hg hgs).symm, fun hnone => ?_⟩
    · rw [hex]
      exact FlagSet.not_meets_mono hbarred (FlagSet.sdiff_subset _ _)
    · exact absurd (FlagSet.mem_sdiff.2 ⟨hin, by simp⟩) (hnone input hmem)
  · rename_i hfind
    have hnone : ∀ f ∈ radioPriority, f ∉ gs := by simpa using hfind
    split_ifs with hsup
    · rw [hdefault] at hsup ⊢
      have hex : excluded (gs ∪ .only d) = excluded gs := excluded_congr (by simp [(hspi d hd).symm])
      have hleft : ∀ f ∈ radioPriority, f ∈ gs ∪ .only d → f = d := fun f hf hfs => by
        simpa [hnone f hf] using hfs
      refine ⟨?_, fun f hf g hg hfs hgs => (hleft f hf hfs).trans (hleft g hg hgs).symm, fun h => ?_⟩
      · rw [hex, FlagSet.union_meets]
        exact not_or.2 ⟨hbarred, fun hm => hsup.2 (FlagSet.meets_comm.1 hm)⟩
      · exact absurd (by simp) (h d hd)
    · exact ⟨hbarred, fun f hf _ _ hfs => absurd hfs (hnone f hf), fun _ => hsup⟩

/-- a supported set stays supported when the radio input is chosen -/
theorem selectRadio_supported (h : ¬ fs.Meets (unsupported t.capabilities)) :
    ¬ (selectRadio t fs).value.Meets (unsupported t.capabilities) := by
  have hcut := FlagSet.not_meets_mono h (FlagSet.sdiff_subset fs (excluded fs))
  rw [selectRadio_value t fs rfl]
  split
  · exact FlagSet.not_meets_mono hcut (FlagSet.sdiff_subset _ _)
  · split_ifs with hsup
    · exact fun hm => (FlagSet.union_meets.1 hm).elim hcut fun hd => hsup.1 (FlagSet.meets_comm.1 hd)
    · exact hcut

/-! ## Trimming -/

/-- some features are taken away, none of them a radio input or software SPI -/
def Trims (fs gs : FeatureSet) : Prop := ∃ cut : FeatureSet, gs = fs \ cut ∧ ¬ cut.Meets (radioInputs.insert .softSpi)

theorem Trims.refl (fs : FeatureSet) : Trims fs fs := ⟨.empty, by simp, by decide⟩

theorem Trims.trans (h : Trims fs gs) (h' : Trims gs hs) : Trims fs hs := by
  obtain ⟨a, rfl, ha⟩ := h
  obtain ⟨b, rfl, hb⟩ := h'
  exact ⟨a ∪ b, FlagSet.sdiff_sdiff _ _ _, fun hm => (FlagSet.union_meets.1 hm).elim ha hb⟩

theorem trims_sdiff_only {f : Feature} (hf : f ∉ radioInputs.insert .softSpi) (fs : FeatureSet) :
    Trims fs (fs \ .only f) :=
  ⟨.only f, rfl, fun hm => hf (FlagSet.meets_only.1 (FlagSet.meets_comm.1 hm))⟩

theorem Trims.subset (h : Trims fs gs) : gs ⊆ fs := by
  obtain ⟨cut, rfl, _⟩ := h
  exact FlagSet.sdiff_subset _ _

/-- trimming keeps the radio inputs and software SPI as they are -/
theorem Trims.mem_iff (h : Trims fs gs) {f : Feature} (hf : f ∈ radioInputs.insert .softSpi) : f ∈ gs ↔ f ∈ fs := by
  obtain ⟨cut, rfl, hcut⟩ := h
  have : f ∉ cut := fun hc => hcut (FlagSet.meets_iff.2 ⟨Flag.bit f, hc, hf⟩)
  simp [this]

theorem SingleRadio.trims (h : SingleRadio t fs) (ht : Trims fs gs) : SingleRadio t gs := by
  have hradio : ∀ f ∈ radioPriority, (f ∈ gs ↔ f ∈ fs) := fun f hf =>
    ht.mem_iff (FlagSet.mem_insert.2 (Or.inl (FlagSet.mem_ofList.2 hf)))
  have hex : excluded gs = excluded fs := excluded_congr (ht.mem_iff (by decide))
  refine ⟨?_, fun f hf g hg hfs hgs => ?_, fun hnone => ?_⟩
  · rw [hex]
    exact FlagSet.not_meets_mono h.barred ht.subset
  · exact h.single f hf g hg ((hradio f hf).1 hfs) ((hradio g hg).1 hgs)
  · rw [hex]
    exact h.none_left fun f hf hfs => hnone f hf ((hradio f hf).2 hfs)

end Repair
end FlightStore
