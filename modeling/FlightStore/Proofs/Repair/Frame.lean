/-
What a repair pass leaves alone.

Settings are masked (`Settings.masked`) when every place that some rule writes has a fixed value. No rule changes masked
settings (`Rule.masked_apply`), so a pass does not either, and what is outside of these places is after a pass what it
was before (`Untouched`).

Features and ports are written as a whole, so the mask hides them. All rules but the one for the radio inputs switch
declared features off, and nothing else (`SwitchesOff`); that one may switch the default input of the target on, if
none of the inputs is left (`FeaturesKept`). Ports are replaced if they are not valid, and lose GPS if positions come
from a companion device (`PortsKept`).

Result: `repair_frame`. Witness: `repair_frame_wrecked`, the settings that break most rules at once.
-/
import FlightStore.Proofs.Repair.RadioInput
import FlightStore.Proofs.Repair.Tuning

namespace FlightStore

/-! ## Masks -/

/-- a PID profile with fixed values in the places that rules write -/
def PidProfile.masked (p : PidProfile) : PidProfile :=
  { p with
    gains := ⟨{ p.gains.roll with f := 0 }, { p.gains.pitch with f := 0 }, { p.gains.yaw with f := 0 }⟩
    dMin := ⟨0, 0, 0⟩
    lowpass := 0
    lowpass2 := 0
    notch := 0
    notchCutoff := 0
    dynamicMin := 0
    outputLimit := 0
    cellByte := 0
    throttleBoost := 0 }

/-- receiver settings with fixed values in the places that rules write -/
def Receiver.masked (r : Receiver) : Receiver := { r with rssiChannel := 0, rssiFromFrameErrors := false }

/-- settings of the video transmitter with fixed values in the places that rules write -/
def Vtx.masked (v : Vtx) : Vtx := { v with band := 0, channel := 0, power := 0, frequency := 0 }

/-- settings with fixed values in the places that rules write -/
def Settings.masked (s : Settings) : Settings :=
  { s with
    system := { s.system with pidProfileIndex := 0, rateProfileIndex := 0 }
    features := .empty
    serial := {}
    receiver := s.receiver.masked
    motor := { s.motor with
      output := { s.motor.output with pulseRate := 0, unsynced := false, telemetry := false, bitbang := .auto }
      minCommand := 0 }
    gyro := { s.gyro with
      syncDenom := 0
      lowpass := 0
      lowpass2 := 0
      notch1 := 0
      notchCutoff1 := 0
      notch2 := 0
      notchCutoff2 := 0
      dynamicMin := 0 }
    pidLoop := {}
    failsafe := { s.failsafe with procedure := .drop }
    modes := .empty
    beeper := {}
    blackbox := { s.blackbox with device := .none }
    vtx := s.vtx.masked
    pidProfiles := s.pidProfiles.map PidProfile.masked }

/-! ## Outside of the masks -/

/-- what no rule writes in a PID profile is the same -/
structure PidProfile.Untouched (p p' : PidProfile) : Prop where
  name : p'.name = p.name
  roll : p'.gains.roll = { p.gains.roll with f := p'.gains.roll.f }
  pitch : p'.gains.pitch = { p.gains.pitch with f := p'.gains.pitch.f }
  yaw : p'.gains.yaw = { p.gains.yaw with f := p'.gains.yaw.f }
  dynamicMax : p'.dynamicMax = p.dynamicMax
  antiGravityGain : p'.antiGravityGain = p.antiGravityGain

/-- what no rule writes in settings is the same -/
structure Settings.Untouched (s s' : Settings) : Prop where
  pilot : s'.pilot = s.pilot
  accelerometer : s'.accelerometer = s.accelerometer
  throttleCorrection : s'.throttleCorrection = s.throttleCorrection
  gps : s'.gps = s.gps
  vtxTable : s'.vtxTable = s.vtxTable
  rateProfiles : s'.rateProfiles = s.rateProfiles
  system : s'.system = { s.system with
    pidProfileIndex := s'.system.pidProfileIndex
    rateProfileIndex := s'.system.rateProfileIndex }
  receiver : s'.receiver = { s.receiver with
    rssiChannel := s'.receiver.rssiChannel
    rssiFromFrameErrors := s'.receiver.rssiFromFrameErrors }
  protocol : s'.motor.output.protocol = s.motor.output.protocol
  burst : s'.motor.output.burst = s.motor.output.burst
  minThrottle : s'.motor.minThrottle = s.motor.minThrottle
  maxThrottle : s'.motor.maxThrottle = s.motor.maxThrottle
  poleCount : s'.motor.poleCount = s.motor.poleCount
  hardwareLowpass : s'.gyro.hardwareLowpass = s.gyro.hardwareLowpass
  dynamicMax : s'.gyro.dynamicMax = s.gyro.dynamicMax
  failsafe : s'.failsafe = { s.failsafe with procedure := s'.failsafe.procedure }
  blackbox : s'.blackbox = { s.blackbox with device := s'.blackbox.device }
  pitMode : s'.vtx.pitModeFrequency = s.vtx.pitModeFrequency
  lowPower : s'.vtx.lowPowerDisarm = s.vtx.lowPowerDisarm
  profiles : ∀ slot (h : slot < pidProfileCount), s.pidProfiles[slot].Untouched s'.pidProfiles[slot]

theorem PidProfile.Untouched.of_masked {p p' : PidProfile} (h : p'.masked = p.masked) : p.Untouched p' := by
  -- whatever can be read of masked profiles is the same; the mask does not hide what is read below
  have same {α : Type} (f : PidProfile → α) : f p'.masked = f p.masked := congrArg f h
  exact {
    name := same PidProfile.name
    roll := same fun q => { q.gains.roll with f := p'.gains.roll.f }
    pitch := same fun q => { q.gains.pitch with f := p'.gains.pitch.f }
    yaw := same fun q => { q.gains.yaw with f := p'.gains.yaw.f }
    dynamicMax := same PidProfile.dynamicMax
    antiGravityGain := same PidProfile.antiGravityGain }

/-- settings that look the same under the mask differ in masked places only -/
theorem Settings.Untouched.of_masked {s s' : Settings} (h : s'.masked = s.masked) : s.Untouched s' := by
  have same {α : Type} (f : Settings → α) : f s'.masked = f s.masked := congrArg f h
  have hprofiles : s'.pidProfiles.map PidProfile.masked = s.pidProfiles.map PidProfile.masked :=
    same Settings.pidProfiles
  exact {
    pilot := same Settings.pilot
    accelerometer := same Settings.accelerometer
    throttleCorrection := same Settings.throttleCorrection
    gps := same Settings.gps
    vtxTable := same Settings.vtxTable
    rateProfiles := same Settings.rateProfiles
    system := same fun m => { m.system with
      pidProfileIndex := s'.system.pidProfileIndex
      rateProfileIndex := s'.system.rateProfileIndex }
    receiver := same fun m => { m.receiver with
      rssiChannel := s'.receiver.rssiChannel
      rssiFromFrameErrors := s'.receiver.rssiFromFrameErrors }
    protocol := same fun m => m.motor.output.protocol
    burst := same fun m => m.motor.output.burst
    minThrottle := same fun m => m.motor.minThrottle
    maxThrottle := same fun m => m.motor.maxThrottle
    poleCount := same fun m => m.motor.poleCount
    hardwareLowpass := same fun m => m.gyro.hardwareLowpass
    dynamicMax := same fun m => m.gyro.dynamicMax
    failsafe := same fun m => { m.failsafe with procedure := s'.failsafe.procedure }
    blackbox := same fun m => { m.blackbox with device := s'.blackbox.device }
    pitMode := same fun m => m.vtx.pitModeFrequency
    lowPower := same fun m => m.vtx.lowPowerDisarm
    profiles := by
      intro slot hslot
      have hmasked := congrArg (fun v : Vector PidProfile pidProfileCount => v[slot]) hprofiles
      simp only [Vector.getElem_map] at hmasked
      exact .of_masked hmasked }

namespace Repair

/-! ## Rules under the mask -/

variable {t : Target} {sensor : SensorModel} {s s' : Settings}

theorem masked_fixRssi (fs : FeatureSet) (r : Receiver) : (fixRssi fs r).value.masked = r.masked := by
  unfold fixRssi
  split_ifs <;> rfl

theorem masked_fixVtx (table : VtxTable) (v : Vtx) : (fixVtx table v).value.masked = v.masked := by
  have hchannel : (fixVtxChannel table v).value.masked = v.masked := by
    unfold fixVtxChannel
    split_ifs <;> rfl
  have hband : ∀ w : Vtx, (fixVtxBand table w).value.masked = w.masked := by
    intro w
    unfold fixVtxBand
    split_ifs <;> rfl
  calc (fixVtx table v).value.masked = (fixVtxBand table (fixVtxChannel table v).value).value.masked := rfl
    _ = (fixVtxChannel table v).value.masked := hband _
    _ = v.masked := hchannel

namespace Rule

/-- masked PID profiles are those from before -/
theorem masked_pidProfiles (r : Rule) (t : Target) (sensor : SensorModel) (s : Settings) :
    (r.apply t sensor s).value.pidProfiles.map PidProfile.masked = s.pidProfiles.map PidProfile.masked := by
  have hprofile : ∀ p : PidProfile, (r.profile s.receiver p).masked = p.masked := by
    intro p
    cases r <;> rfl
  rw [r.pidProfiles_eq, Vector.map_map]
  exact congrArg (s.pidProfiles.map ·) (funext hprofile)

/-- **Rules write in known places.** No rule changes masked settings. -/
theorem masked_apply (r : Rule) (t : Target) (sensor : SensorModel) (s : Settings) :
    (r.apply t sensor s).value.masked = s.masked := by
  unfold Settings.masked
  rw [r.masked_pidProfiles]
  cases r with
  | ranges =>
    have hvtx : (if .vtxTable ∈ t.capabilities then (fixVtx s.vtxTable s.vtx).value else s.vtx).masked =
        s.vtx.masked := by
      split_ifs
      · exact masked_fixVtx s.vtxTable s.vtx
      · rfl
    rw [apply, fixRanges_value, hvtx]
  | motorProtocol =>
    rw [apply, fixProtocol_value]
    rfl
  | loopTiming => rw [apply, fixLoop_value]
  | peripherals =>
    have hreceiver := masked_fixRssi (fixSerialFeatures s).value.features s.receiver
    rw [apply, fixPeripherals_value, fixRescue_value, fixSerialFeatures_value, hreceiver]
  | _ => rfl

end Rule

/-- a pass does not change masked settings either -/
theorem masked_repair (t : Target) (sensor : SensorModel) (s : Settings) :
    (repair t sensor s).settings.masked = s.masked :=
  repair_eq_of_forall fun r s' => r.masked_apply t sensor s'

/-! ## Features -/

/-- features may go off if they are declared, and nothing else happens -/
structure SwitchesOff (fs fs' : FeatureSet) : Prop where
  subset : fs' ⊆ fs
  undeclared : fs'.undeclared = fs.undeclared

namespace SwitchesOff

variable {fs fs' fs'' cut : FeatureSet}

theorem refl (fs : FeatureSet) : SwitchesOff fs fs := ⟨FlagSet.subset_iff.2 fun _ h => h, rfl⟩

theorem trans (h : SwitchesOff fs fs') (h' : SwitchesOff fs' fs'') : SwitchesOff fs fs'' where
  subset := FlagSet.subset_iff.2 fun i hi => FlagSet.subset_iff.1 h.subset i (FlagSet.subset_iff.1 h'.subset i hi)
  undeclared := h'.undeclared.trans h.undeclared

theorem sdiff (hcut : cut ⊆ FlagSet.declared) (fs : FeatureSet) : SwitchesOff fs (fs \ cut) where
  subset := FlagSet.sdiff_subset fs cut
  undeclared := by
    refine FlagSet.ext_bits fun i => ?_
    simp only [FlagSet.undeclared, FlagSet.getLsbD_sdiff]
    cases hc : cut.bits.getLsbD i
    · simp
    · simp [FlagSet.subset_iff.1 hcut i hc]

theorem ofList_subset_declared (features : List Feature) : FlagSet.ofList features ⊆ (.declared : FeatureSet) := by
  refine FlagSet.subset_iff.2 fun i hi => ?_
  obtain ⟨f, -, rfl⟩ := (FlagSet.getLsbD_ofList features i).1 hi
  exact FlagSet.mem_declared f

theorem sdiff_only (f : Feature) (fs : FeatureSet) : SwitchesOff fs (fs \ .only f) := by
  refine sdiff (FlagSet.subset_iff.2 fun i hi => ?_) fs
  rw [FlagSet.getLsbD_only, decide_eq_true_iff] at hi
  exact hi ▸ FlagSet.mem_declared f

/-- one feature that goes off if there is a reason -/
theorem ite (p : Prop) [Decidable p] (f : Feature) (fs : FeatureSet) :
    SwitchesOff fs (if p then fs \ .only f else fs) := by
  split_ifs
  · exact sdiff_only f fs
  · exact refl fs

end SwitchesOff

theorem switchesOff_fixSerialFeatures (s : Settings) : SwitchesOff s.features (fixSerialFeatures s).value.features := by
  have hneed : ∀ (f : Feature) (fs : SerialFunctions) (s : Settings),
      SwitchesOff s.features (needPort f fs s).value.features := by
    intro f fs s
    rw [needPort_value, ← ite_not]
    exact .ite _ f s.features
  have hgps : SwitchesOff s.features (fixGpsPort s).value.features := by
    rw [fixGpsPort_value, ← ite_not]
    exact .ite _ .gps s.features
  exact (hgps.trans (hneed _ _ _)).trans (hneed _ _ _)

/-- every rule but the one for the radio inputs switches declared features off, and nothing else -/
theorem Rule.switchesOff_apply {r : Rule} (hr : r ≠ rxExclusion) (s : Settings) :
    SwitchesOff s.features (r.apply t sensor s).value.features := by
  cases r with
  | rxExclusion => exact absurd rfl hr
  | capabilities => exact .sdiff (SwitchesOff.ofList_subset_declared _) s.features
  | ranges =>
    rw [apply, fixRanges_value]
    exact .refl s.features
  | motorProtocol =>
    rw [apply, fixProtocol_value]
    exact .ite _ .threeD s.features
  | loopTiming =>
    rw [apply, fixLoop_value]
    exact .ite _ .dynamicFilter s.features
  | peripherals =>
    rw [apply, fixPeripherals_value, fixRescue_value]
    exact switchesOff_fixSerialFeatures s
  | _ => exact .refl s.features

/-- what a pass makes of the features -/
structure FeaturesKept (t : Target) (fs fs' : FeatureSet) : Prop where
  /-- a bit that is on was on before, or it is one of the default input and no input was left to choose -/
  on : ∀ i, fs'.bits.getLsbD i = true →
    fs.bits.getLsbD i = true ∨ t.defaultRadio.bits.getLsbD i = true ∧ ∀ f ∈ radioPriority, f ∉ eligible t fs
  undeclared : fs'.undeclared = fs.undeclared

theorem SwitchesOff.featuresKept {fs fs' : FeatureSet} (h : SwitchesOff fs fs') (t : Target) :
    FeaturesKept t fs fs' where
  on i hi := .inl (FlagSet.subset_iff.1 h.subset i hi)
  undeclared := h.undeclared

theorem FeaturesKept.switchesOff {fs fs' fs'' : FeatureSet} (h : FeaturesKept t fs fs') (h' : SwitchesOff fs' fs'') :
    FeaturesKept t fs fs'' where
  on i hi := h.on i (FlagSet.subset_iff.1 h'.subset i hi)
  undeclared := h'.undeclared.trans h.undeclared

/-- the choice of the radio input, on the features that the board supports -/
theorem featuresKept_selectRadio (ht : t.HasRadioDefault) (fs : FeatureSet) :
    FeaturesKept t fs (selectRadio t (fs \ unsupported t.capabilities)).value := by
  set supported := fs \ unsupported t.capabilities with hsupported
  set left := supported \ excluded supported with hleft
  have heligible : eligible t fs = left := eligible_eq t fs
  have hexcluded : excluded supported ⊆ (.declared : FeatureSet) := by
    unfold excluded
    split_ifs
    · exact SwitchesOff.ofList_subset_declared _
    · exact SwitchesOff.ofList_subset_declared []
  have hoff : SwitchesOff fs left :=
    (SwitchesOff.sdiff (SwitchesOff.ofList_subset_declared _) fs).trans (.sdiff hexcluded supported)
  rw [selectRadio_value t supported hleft.symm]
  cases hfind : radioPriority.find? (· ∈ left) with
  | some input =>
    have hothers : radioInputs.erase input ⊆ (.declared : FeatureSet) := by
      refine FlagSet.subset_iff.2 fun i hi => ?_
      have hradio := FlagSet.subset_iff.1 (FlagSet.sdiff_subset radioInputs (.only input)) i hi
      exact FlagSet.subset_iff.1 (SwitchesOff.ofList_subset_declared radioPriority) i hradio
    exact (hoff.trans (.sdiff hothers left)).featuresKept t
  | none =>
    -- the one case in which a feature can go on
    have hnone : ∀ f ∈ radioPriority, f ∉ eligible t fs := by
      rw [heligible]
      simpa using hfind
    dsimp only
    split_ifs
    · obtain ⟨d, -, hdefault⟩ := ht
      refine ⟨fun i hi => ?_, ?_⟩
      · rw [FlagSet.getLsbD_union, Bool.or_eq_true] at hi
        rcases hi with hi | hi
        · exact .inl (FlagSet.subset_iff.1 hoff.subset i hi)
        · exact .inr ⟨hi, hnone⟩
      · rw [hdefault]
        exact (FlagSet.undeclared_insert d left).trans hoff.undeclared
    · exact hoff.featuresKept t

theorem featuresKept_repair (ht : t.HasRadioDefault) (sensor : SensorModel) (s : Settings) :
    FeaturesKept t s.features (repair t sensor s).settings.features := by
  refine repair_keeps (P := fun s' => FeaturesKept t s.features s'.features) .rxExclusion (fun q hq s' h => ?_) ?_
  · have hq : q ≠ .rxExclusion := fun he => absurd (he ▸ hq) (by decide)
    exact h.switchesOff (Rule.switchesOff_apply hq s')
  · exact featuresKept_selectRadio ht s.features

/-! ## Ports -/

/-- what a pass makes of the ports -/
structure PortsKept (s s' : Settings) : Prop where
  /-- ports that no board can run are replaced by those it has at first -/
  invalid : ¬ s.serial.Valid → s'.serial = {}
  valid : s.serial.Valid → s.gps.provider ≠ .msp → s'.serial = s.serial
  /-- with positions from a companion device, no port keeps GPS -/
  companion : s.serial.Valid → s.gps.provider = .msp → s'.serial = s.serial.remove (.only .gps)

theorem Rule.serial_apply {r : Rule} (hports : r ≠ serialPorts) (hgps : r ≠ peripherals) (s : Settings) :
    (r.apply t sensor s).value.serial = s.serial := by
  cases r with
  | serialPorts => exact absurd rfl hports
  | peripherals => exact absurd rfl hgps
  | ranges => rw [apply, fixRanges_value]
  | motorProtocol => rw [apply, fixProtocol_value]
  | loopTiming => rw [apply, fixLoop_value]
  | _ => rfl

theorem fixPorts_fixPorts (p : SerialPorts) : (fixPorts (fixPorts p).value).value = (fixPorts p).value := by
  rw [fixPorts_eq_pure (valid_fixPorts p)]
  rfl

/-- the rule for peripherals finds the ports that the first rule has left -/
theorem serial_found (t : Target) (sensor : SensorModel) (s : Settings) :
    (found t sensor s .peripherals).serial = (fixPorts s.serial).value := by
  have hvalid : (found t sensor s .peripherals).serial.Valid :=
    found_holds (q := .serialPorts) (by decide) (Rule.suits_of_ne (by decide))
  have hsame : (fixPorts (found t sensor s .peripherals).serial).value = (fixPorts s.serial).value := by
    -- of the rules before, only the first one writes ports, and repairing them again comes to the same
    refine found_eq (f := fun s' => (fixPorts s'.serial).value) fun q hq s' => ?_
    by_cases hfirst : q = .serialPorts
    · subst hfirst
      exact fixPorts_fixPorts s'.serial
    · have hgps : q ≠ .peripherals := fun he => absurd (he ▸ hq) (by decide)
      rw [Rule.serial_apply hfirst hgps]
  rw [← hsame, fixPorts_eq_pure hvalid]
  rfl

theorem serial_repair (t : Target) (sensor : SensorModel) (s : Settings) :
    (repair t sensor s).settings.serial =
      if s.gps.provider = .msp then (fixPorts s.serial).value.remove (.only .gps) else (fixPorts s.serial).value := by
  have hgps : (found t sensor s .peripherals).gps = s.gps :=
    found_eq (f := Settings.gps) fun q _ s' => (Settings.Untouched.of_masked (q.masked_apply t sensor s')).gps
  rw [repair_eq (f := Settings.serial) .peripherals fun q hq s' => ?_]
  · rw [Rule.apply, fixPeripherals_value, fixRescue_value, fixSerialFeatures_value, serial_found, hgps]
  · have hfirst : q ≠ .serialPorts := fun he => absurd (he ▸ hq) (by decide)
    have hself : q ≠ .peripherals := fun he => absurd (he ▸ hq) (by decide)
    exact Rule.serial_apply hfirst hself s'

theorem portsKept_repair (t : Target) (sensor : SensorModel) (s : Settings) :
    PortsKept s (repair t sensor s).settings where
  invalid hinvalid := by
    have hfixed : (fixPorts s.serial).value = {} := by rw [fixPorts, if_neg hinvalid]
    have hgps : ¬ ({} : SerialPorts).Has (.only .gps) := by decide
    rw [serial_repair, hfixed, SerialPorts.remove_eq_self hgps, ite_self]
  valid hvalid hprovider := by
    rw [serial_repair, if_neg hprovider, fixPorts_eq_pure hvalid]
    rfl
  companion hvalid hprovider := by
    rw [serial_repair, if_pos hprovider, fixPorts_eq_pure hvalid]
    rfl

/-! ## The whole pass -/

/-- **Repair stays within its rules.** For all settings, every sensor and every target that falls back to a radio
input, a pass leaves what no rule writes untouched. It switches no feature on but the default input, which it only takes
if no input is left, and keeps the bits of features that are not declared. Ports that a board can run stay, apart from
GPS next to a companion device. -/
theorem repair_frame (t : Target) (ht : t.HasRadioDefault) (sensor : SensorModel) (s : Settings) :
    s.Untouched (repair t sensor s).settings ∧
      FeaturesKept t s.features (repair t sensor s).settings.features ∧
      PortsKept s (repair t sensor s).settings :=
  ⟨.of_masked (masked_repair t sensor s), featuresKept_repair ht sensor s, portsKept_repair t sensor s⟩

/-- ports that no board can run are replaced, and the bits of undeclared features are still on -/
theorem repair_frame_wrecked :
    Target.host.HasRadioDefault ∧
      (repair .host .icm20649 wrecked).settings.serial = {} ∧
      (repair .host .icm20649 wrecked).settings.features.undeclared = (FlagSet.full : FeatureSet).undeclared := by
  have hdefault : Target.host.HasRadioDefault := by decide
  obtain ⟨-, hfeatures, hports⟩ := repair_frame .host hdefault .icm20649 wrecked
  exact ⟨hdefault, hports.invalid (by decide), hfeatures.undeclared⟩

end Repair
end FlightStore
