/-
The report of a repair pass.

A rule adds up by hand whether it changed something: from comparisons in front of a write, from features that were on,
from conditions that are there to be dropped. `Fixed.Candid` says that nothing is done in silence: without a report, the
value is the one from before. Whatever is put together from candid parts is candid, so every rule is
(`Rule.candid_apply`). That no rule reports a change without one takes no second look at the parts: a rule that leaves
the settings alone has found its fact, and where its fact holds it reports nothing (`Rule.changed_apply_iff`).

Results:
- `report_exact`: for a target that falls back to one radio input, the report of a pass lists exactly the rules that
  changed the settings they found, and it is empty exactly if the pass changed nothing, so that no rule takes back what
  another one did.
Witness:
- `report_exact_wrecked`: the report on settings that break most rules at once.
-/
import FlightStore.Proofs.Repair.Stages

namespace FlightStore

/-! ## Candid rules -/

namespace Fixed

variable {α β : Type}

/-- what is not reported was not done -/
def Candid (x : Fixed α) (a : α) : Prop := x.changed = false → x.value = a

theorem candid_pure (a : α) : Candid (pure a) a := fun _ => rfl

/-- a report is candid, whatever was done -/
theorem candid_of_changed {x : Fixed α} (h : x.changed = true) (a : α) : x.Candid a := by
  intro hquiet
  rw [h] at hquiet
  exact Bool.noConfusion hquiet

/-- candid rules one after the other are candid -/
theorem Candid.bind {x : Fixed α} {f : α → Fixed β} {a : α} {b : β} (h : x.Candid a) (h' : (f a).Candid b) :
    (x >>= f).Candid b := by
  intro hquiet
  obtain ⟨hx, hf⟩ : x.changed = false ∧ (f x.value).changed = false := Bool.or_eq_false_iff.1 hquiet
  rw [h hx] at hf
  rw [value_bind, h hx]
  exact h' hf

theorem candid_assign [DecidableEq α] (old new : α) : (assign old new).Candid old := by
  intro hquiet
  have hsame : ¬ old ≠ new := of_decide_eq_false hquiet
  exact (not_not.1 hsame).symm

theorem candid_assignIf [DecidableEq α] (p : Prop) [Decidable p] (old new : α) : (assignIf p old new).Candid old := by
  unfold assignIf
  split_ifs
  · exact candid_assign old new
  · exact candid_pure old

/-- a candid rule is candid on slots -/
theorem candid_slots {n : Nat} {f : α → Fixed α} (h : ∀ a, (f a).Candid a) (v : Vector α n) : (slots f v).Candid v := by
  intro hquiet
  have hslot : ∀ a ∈ v, (f a).value = a := by
    intro a ha
    have hany : ¬ (f a).changed = true := List.any_eq_false.1 hquiet a (Vector.mem_toList_iff.2 ha)
    exact h a (Bool.eq_false_iff.2 hany)
  rw [value_slots]
  ext i hi
  simp [hslot v[i] (Vector.getElem_mem hi)]

end Fixed

namespace Repair

open Fixed

variable {t : Target} {sensor : SensorModel} {s : Settings}

theorem candid_disable (fs gs : FeatureSet) : (disable fs gs).Candid fs := by
  intro hquiet
  exact FlagSet.sdiff_eq_self (of_decide_eq_false hquiet)

theorem candid_fixPorts (p : SerialPorts) : (fixPorts p).Candid p := by
  unfold fixPorts
  split_ifs
  · exact candid_pure p
  · exact candid_of_changed rfl p

theorem candid_disableUnsupported (t : Target) (s : Settings) : (disableUnsupported t s).Candid s :=
  (candid_disable _ _).bind <| (candid_assignIf _ _ _).bind <| (candid_assignIf _ _ _).bind <| candid_pure s

theorem candid_selectRadio (t : Target) (fs : FeatureSet) : (selectRadio t fs).Candid fs := by
  refine (candid_disable fs _).bind ?_
  split
  · exact candid_disable fs _
  · split_ifs
    · exact candid_of_changed rfl fs
    · exact candid_pure fs

/-! ### Filters and ranges -/

theorem candid_clampGyro (g : Gyro) : (clampGyro g).Candid g :=
  (candid_assignIf _ _ _).bind <| (candid_assignIf _ _ _).bind <| (candid_assignIf _ _ _).bind <|
    (candid_assignIf _ _ _).bind <| (candid_assignIf _ _ _).bind <| (candid_assignIf _ _ _).bind <| candid_pure g

theorem candid_clampProfile (p : PidProfile) : (clampProfile p).Candid p :=
  (candid_assignIf _ _ _).bind <| (candid_assignIf _ _ _).bind <| (candid_assignIf _ _ _).bind <|
    (candid_assignIf _ _ _).bind <| candid_pure p

theorem candid_clampFilters (s : Settings) : (clampFilters s).Candid s :=
  (candid_clampGyro s.gyro).bind <| (candid_slots candid_clampProfile s.pidProfiles).bind <| candid_pure s

theorem candid_orderGyro (g : Gyro) : (orderGyro g).Candid g :=
  (candid_assignIf _ _ _).bind <| (candid_assignIf _ _ _).bind <| (candid_assignIf _ _ _).bind <| candid_pure g

theorem candid_orderProfile (p : PidProfile) : (orderProfile p).Candid p :=
  (candid_assignIf _ _ _).bind <| (candid_assignIf _ _ _).bind <| (candid_assignIf _ _ _).bind <|
    (candid_assignIf _ _ _).bind <| (candid_assignIf _ _ _).bind <| candid_pure p

theorem candid_orderFilters (s : Settings) : (orderFilters s).Candid s :=
  (candid_orderGyro s.gyro).bind <| (candid_slots candid_orderProfile s.pidProfiles).bind <| candid_pure s

theorem candid_fixProfileRanges (p : PidProfile) : (fixProfileRanges p).Candid p :=
  (candid_assignIf _ _ _).bind <| (candid_assignIf _ _ _).bind <| candid_pure p

theorem candid_fixBeeper (b : Beeper) : (fixBeeper b).Candid b :=
  (candid_assignIf _ _ _).bind <| (candid_assignIf _ _ _).bind <| (candid_assignIf _ _ _).bind <| candid_pure b

theorem candid_fixVtx (table : VtxTable) (v : Vtx) : (fixVtx table v).Candid v := by
  have hchannel : (fixVtxChannel table v).Candid v := by
    unfold fixVtxChannel
    split_ifs
    · exact (candid_assign _ _).bind <| (candid_assignIf _ _ _).bind <| candid_pure v
    · exact candid_pure v
  have hband : (fixVtxBand table v).Candid v := by
    unfold fixVtxBand
    split_ifs
    · exact (candid_assign _ _).bind <| (candid_assign _ _).bind <| candid_pure v
    · exact candid_pure v
  have hpower : (fixVtxPower table v).Candid v := (candid_assignIf _ _ _).bind <| candid_pure v
  exact hchannel.bind <| hband.bind hpower

theorem candid_fixRanges (caps : Capabilities) (s : Settings) : (fixRanges caps s).Candid s := by
  refine (candid_slots candid_fixProfileRanges s.pidProfiles).bind <| (candid_assign _ _).bind <|
    (candid_assign _ _).bind <| (candid_fixBeeper s.beeper).bind ?_
  split_ifs
  · exact (candid_fixVtx s.vtxTable s.vtx).bind <| candid_pure s
  · exact candid_pure s

/-! ### Motors and loops -/

theorem candid_fixProtocol (s : Settings) : (fixProtocol s).Candid s := by
  have hbrushed : (fixBrushed s).Candid s := by
    unfold fixBrushed
    split_ifs
    · exact (candid_disable _ _).bind <| (candid_assign _ _).bind <| candid_pure s
    · exact candid_pure s
  have houtput : (fixOutput s.system.schedulerTuning s.motor.output).Candid s.motor.output :=
    (candid_assignIf _ _ _).bind <| (candid_assignIf _ _ _).bind <| (candid_assignIf _ _ _).bind <|
      (candid_assignIf _ _ _).bind <| candid_pure s.motor.output
  exact hbrushed.bind <| houtput.bind <| candid_pure s

theorem candid_fixLoop (sensor : SensorModel) (s : Settings) : (fixLoop sensor s).Candid s := by
  refine (candid_assignIf _ _ _).bind <| (candid_assign _ _).bind <| (candid_assign _ _).bind ?_
  split_ifs
  · exact (candid_disable _ _).bind <| candid_pure s
  · exact candid_pure s

/-! ### Peripherals -/

theorem candid_fixGpsPort (s : Settings) : (fixGpsPort s).Candid s := by
  unfold fixGpsPort
  split_ifs
  · -- the ports are only written where one of them runs GPS
    intro hquiet
    have hnone : ¬ s.serial.Has (.only .gps) := of_decide_eq_false hquiet
    dsimp only
    rw [SerialPorts.remove_eq_self hnone]
  · exact candid_pure s
  · exact (candid_disable _ _).bind <| candid_pure s

theorem candid_needPort (f : Feature) (fs : SerialFunctions) (s : Settings) : (needPort f fs s).Candid s := by
  unfold needPort
  split_ifs
  · exact candid_pure s
  · exact (candid_disable _ _).bind <| candid_pure s

theorem candid_fixRescue (caps : Capabilities) (s : Settings) : (fixRescue caps s).Candid s := by
  have hmodes : Candid ⟨ModeConditions.remove s.modes .gpsRescue, ModeConditions.Present s.modes .gpsRescue⟩ s.modes :=
    fun hquiet => ModeConditions.remove_eq_self (of_decide_eq_false hquiet)
  unfold fixRescue
  split_ifs
  · exact candid_pure s
  · exact (candid_assignIf _ _ _).bind <| hmodes.bind <| candid_pure s

theorem candid_fixRssi (fs : FeatureSet) (r : Receiver) : (fixRssi fs r).Candid r := by
  unfold fixRssi
  split_ifs
  · exact (candid_assign _ _).bind <| (candid_assign _ _).bind <| candid_pure r
  · exact (candid_assignIf _ _ _).bind <| candid_pure r

theorem candid_fixUnsmoothed (r : Receiver) (p : PidProfile) : (fixUnsmoothed r p).Candid p :=
  (candid_assignIf _ _ _).bind <| (candid_assignIf _ _ _).bind <| (candid_assignIf _ _ _).bind <|
    (candid_assignIf _ _ _).bind <| candid_pure p

theorem candid_fixPeripherals (caps : Capabilities) (s : Settings) : (fixPeripherals caps s).Candid s := by
  have hserial : (fixSerialFeatures s).Candid s :=
    (candid_fixGpsPort s).bind <| (candid_needPort _ _ s).bind <| candid_needPort _ _ s
  exact hserial.bind <| (candid_fixRescue caps s).bind <| (candid_fixRssi s.features s.receiver).bind <|
    (candid_slots (candid_fixUnsmoothed s.receiver) s.pidProfiles).bind <| candid_pure s

/-! ### Links and indices -/

theorem candid_fixModeLinks (l : ModeConditions) : (fixModeLinks l).Candid l := by
  intro hquiet
  by_contra hne
  rw [(changed_fixModeLinks l).2 hne] at hquiet
  exact Bool.noConfusion hquiet

theorem candid_fixIndices (s : SystemState) : (fixIndices s).Candid s :=
  (candid_assignIf _ _ _).bind <| (candid_assignIf _ _ _).bind <| candid_pure s

/-! ## Each rule -/

namespace Rule

/-- **No rule changes settings in silence.** -/
theorem candid_apply (r : Rule) (t : Target) (sensor : SensorModel) (s : Settings) : (r.apply t sensor s).Candid s := by
  cases r with
  | serialPorts => exact (candid_fixPorts s.serial).bind <| candid_pure s
  | capabilities => exact candid_disableUnsupported t s
  | rxExclusion => exact (candid_selectRadio t s.features).bind <| candid_pure s
  | filterLimits => exact candid_clampFilters s
  | filterOrdering => exact candid_orderFilters s
  | ranges => exact candid_fixRanges t.capabilities s
  | motorProtocol => exact candid_fixProtocol s
  | loopTiming => exact candid_fixLoop sensor s
  | peripherals => exact candid_fixPeripherals t.capabilities s
  | modeLinks => exact (candid_fixModeLinks s.modes).bind <| candid_pure s
  | profileIndices => exact (candid_fixIndices s.system).bind <| candid_pure s

/-- **A rule reports a change exactly if it makes one.** -/
theorem changed_apply_iff {r : Rule} (hr : r.Suits t) (sensor : SensorModel) (s : Settings) :
    (r.apply t sensor s).changed = true ↔ (r.apply t sensor s).value ≠ s := by
  constructor
  · intro hchanged hsame
    have hholds : r.Holds t sensor s := hsame ▸ holds_apply hr sensor s
    rw [apply_eq_pure hholds] at hchanged
    exact Bool.noConfusion hchanged
  · intro hne
    by_contra hquiet
    exact hne (r.candid_apply t sensor s (Bool.eq_false_iff.2 hquiet))

end Rule

/-! ## The pass -/

instance : LawfulFlag Rule := ⟨fun r => by cases r <;> decide, fun r => by cases r <;> rfl⟩

/-- a step lists its rule if that reports a change -/
theorem mem_report_step {p : Pass} {q r : Rule} :
    q ∈ (Pass.step t sensor p r).report ↔ q ∈ p.report ∨ q = r ∧ (r.apply t sensor p.settings).changed = true := by
  unfold Pass.step
  dsimp only
  split_ifs with hchanged
  · simp [hchanged]
  · simp [hchanged]

/-- rules list only themselves -/
theorem mem_report_run {q : Rule} {rs : List Rule} (hq : q ∉ rs) (p : Pass) :
    q ∈ (rs.foldl (Pass.step t sensor) p).report ↔ q ∈ p.report := by
  induction rs generalizing p with
  | nil => rfl
  | cons r rs ih =>
    obtain ⟨hne, hrest⟩ := List.ne_and_not_mem_of_not_mem_cons hq
    rw [List.foldl_cons, ih hrest, mem_report_step]
    simp [hne]

/-- a pass lists a rule exactly if the rule reports a change of the settings that it finds -/
theorem mem_report_repair {r : Rule} :
    r ∈ (repair t sensor s).report ↔ (r.apply t sensor (found t sensor s r)).changed = true := by
  have hself : ¬ r.Before r := Nat.lt_irrefl _
  have hlater : r ∉ r.later := mt Rule.mem_later.1 hself
  have hearlier : r ∉ r.earlier := mt Rule.mem_earlier.1 hself
  rw [repair, Rule.list_eq r, List.foldl_append, List.foldl_cons, mem_report_run hlater, mem_report_step,
    mem_report_run hearlier]
  simp [found]

/-- no bit of a report is set but those of rules -/
theorem undeclared_report (t : Target) (sensor : SensorModel) (s : Settings) :
    (repair t sensor s).report.undeclared = .empty := by
  refine List.foldlRecOn (motive := fun p => p.report.undeclared = .empty) Rule.list (Pass.step t sensor) ?_ ?_
  · show (FlagSet.empty : Report).undeclared = .empty
    decide
  · intro p hp r _
    unfold Pass.step
    dsimp only
    split_ifs
    · rwa [FlagSet.undeclared_insert]
    · exact hp

/-- a pass that lists no rule has left the settings alone -/
theorem settings_of_report_empty (h : (repair t sensor s).report = .empty) : (repair t sensor s).settings = s := by
  revert h
  refine List.foldlRecOn (motive := fun p => p.report = .empty → p.settings = s) Rule.list (Pass.step t sensor) ?_ ?_
  · intro _
    rfl
  · intro p hp r _ hempty
    have hquiet : (r.apply t sensor p.settings).changed = false := by
      by_contra hchanged
      have hlisted : r ∈ (Pass.step t sensor p r).report :=
        mem_report_step.2 (Or.inr ⟨rfl, Bool.eq_true_of_not_eq_false hchanged⟩)
      rw [hempty] at hlisted
      exact FlagSet.not_mem_empty hlisted
    have hbefore : p.report = .empty := by simpa [Pass.step, hquiet] using hempty
    have hsame : (r.apply t sensor p.settings).value = p.settings := r.candid_apply t sensor p.settings hquiet
    exact hsame.trans (hp hbefore)

/-- what the report of a pass tells about the settings from before -/
structure ReportExact (t : Target) (sensor : SensorModel) (s : Settings) (p : Pass) : Prop where
  /-- a rule is listed exactly if it left behind other settings than it had found -/
  listed : ∀ r : Rule, r ∈ p.report ↔ (r.apply t sensor (found t sensor s r)).value ≠ found t sensor s r
  /-- nothing but rules is listed -/
  undeclared : p.report.undeclared = .empty
  /-- what one rule changes no other takes back -/
  empty_iff : p.report = .empty ↔ p.settings = s

/-- **The report is exact.** For all settings, every sensor and every target that falls back to one radio input, the
report of a pass lists the rules that changed something, and no rule if the pass changed nothing. -/
theorem report_exact (t : Target) (ht : t.HasRadioDefault) (sensor : SensorModel) (s : Settings) :
    ReportExact t sensor s (repair t sensor s) where
  listed r := mem_report_repair.trans (Rule.changed_apply_iff (fun _ => ht) sensor _)
  undeclared := undeclared_report t sensor s
  empty_iff := by
    refine ⟨settings_of_report_empty, fun hsame => ?_⟩
    -- settings that a pass does not change are settled, and a pass over settled settings is silent
    have hsettled : Settled t sensor s := hsame ▸ repair_settled ht sensor s
    rw [repair_eq_self hsettled]

theorem report_exact_wrecked :
    Target.host.HasRadioDefault ∧ ReportExact .host .icm20649 wrecked (repair .host .icm20649 wrecked) :=
  ⟨by decide, report_exact .host (by decide) .icm20649 wrecked⟩

end Repair
end FlightStore
