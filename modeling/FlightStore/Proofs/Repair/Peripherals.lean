/-
Features, ports and receiver after repair.

`PeripheralsConsistent` says that every feature with a port has one, that rescue by GPS is asked for only where it can
work, that there is one source of signal strength, and that gains on the setpoint exist only where it is smoothed. The
rule takes GPS off the ports and trims features first; the rest follows from the features it has left.
-/
import FlightStore.Proofs.Repair.Features
import FlightStore.Proofs.Repair.Filters
import FlightStore.Proofs.Repair.Ports
import FlightStore.Proofs.Repair.Ranges

namespace FlightStore

theorem ModeConditions.not_present_remove (l : ModeConditions) (m : Mode) :
    ¬ ModeConditions.Present (ModeConditions.remove l m) m := by
  rintro ⟨c, hc, hm⟩
  have := (List.mem_filter.1 hc).2
  simp [hm] at this

theorem ModeConditions.remove_eq_self {l : ModeConditions} {m : Mode} (h : ¬ ModeConditions.Present l m) :
    ModeConditions.remove l m = l :=
  BoundedList.ext (List.filter_eq_self.2 fun c hc => decide_eq_true fun hm => h ⟨c, hc, hm⟩)

namespace Repair

/-! ## Features with a port -/

theorem fixGpsPort_value (s : Settings) :
    (fixGpsPort s).value =
      { s with
        serial := if s.gps.provider = .msp then s.serial.remove (.only .gps) else s.serial
        features :=
          if s.gps.provider = .msp ∨ s.serial.Has (.only .gps) then s.features else s.features \ .only .gps } := by
  unfold fixGpsPort
  by_cases hp : s.gps.provider = .msp
  · simp [hp]
  · by_cases hh : s.serial.Has (.only .gps) <;> simp [hp, hh]

theorem needPort_value (f : Feature) (fs : SerialFunctions) (s : Settings) :
    (needPort f fs s).value =
      { s with features := if s.serial.Has fs then s.features else s.features \ .only f } := by
  unfold needPort
  by_cases hh : s.serial.Has fs <;> simp [hh]

theorem needPort_eq_pure {f : Feature} {fs : SerialFunctions} {s : Settings} (h : f ∈ s.features → s.serial.Has fs) :
    needPort f fs s = pure s := by
  unfold needPort
  split_ifs with hh
  · rfl
  · rw [disable_eq_pure fun hm => hh (h (FlagSet.meets_only.1 hm)), pure_bind]

theorem port_of_needPort {f : Feature} {fs : SerialFunctions} {s : Settings}
    (h : f ∈ (needPort f fs s).value.features) : s.serial.Has fs := by
  rw [needPort_value] at h
  by_contra hh
  simp [hh] at h

theorem trims_fixGpsPort (s : Settings) : Trims s.features (fixGpsPort s).value.features := by
  rw [fixGpsPort_value]
  dsimp only
  split_ifs
  · exact Trims.refl _
  · exact trims_sdiff_only (by decide) _

theorem trims_needPort {f : Feature} (hf : f ∉ radioInputs.insert .softSpi) (fs : SerialFunctions) (s : Settings) :
    Trims s.features (needPort f fs s).value.features := by
  rw [needPort_value]
  dsimp only
  split_ifs
  · exact Trims.refl _
  · exact trims_sdiff_only hf _

/-- the serial features rule changes the ports of GPS and the features, and nothing else -/
theorem fixSerialFeatures_value (s : Settings) :
    (fixSerialFeatures s).value =
      { s with
        serial := if s.gps.provider = .msp then s.serial.remove (.only .gps) else s.serial
        features := (fixSerialFeatures s).value.features } := by
  simp only [fixSerialFeatures, Fixed.value_bind, needPort_value, fixGpsPort_value]

theorem trims_fixSerialFeatures (s : Settings) : Trims s.features (fixSerialFeatures s).value.features :=
  ((trims_fixGpsPort s).trans (trims_needPort (by decide) _ _)).trans (trims_needPort (by decide) _ _)

/-- every feature that needs a port has one, and no port runs GPS for a companion device -/
structure SerialFeatures (s : Settings) : Prop where
  mspGps : s.gps.provider = .msp → ¬ s.serial.Has (.only .gps)
  gps : s.gps.provider ≠ .msp → .gps ∈ s.features → s.serial.Has (.only .gps)
  telemetry : .telemetry ∈ s.features → s.serial.Has SerialFunctions.telemetry
  escSensor : .escSensor ∈ s.features → s.serial.Has (.only .escSensor)

theorem fixSerialFeatures_eq_pure {s : Settings} (h : SerialFeatures s) : fixSerialFeatures s = pure s := by
  have hgps : fixGpsPort s = pure s := by
    unfold fixGpsPort
    split_ifs with hp hh
    · rw [SerialPorts.remove_eq_self (h.mspGps hp), decide_eq_false (h.mspGps hp)]
      rfl
    · rfl
    · rw [disable_eq_pure fun hm => hh (h.gps hp (FlagSet.meets_only.1 hm)), pure_bind]
  simp only [fixSerialFeatures, hgps, needPort_eq_pure h.telemetry, needPort_eq_pure h.escSensor, pure_bind]

theorem serialFeatures_fixSerialFeatures (s : Settings) : SerialFeatures (fixSerialFeatures s).value := by
  set s₁ := (fixGpsPort s).value with h₁
  set s₂ := (needPort .telemetry SerialFunctions.telemetry s₁).value with h₂
  have hvalue : (fixSerialFeatures s).value = (needPort .escSensor (.only .escSensor) s₂).value := rfl
  have hserial₂ : s₂.serial = s₁.serial := by rw [h₂, needPort_value]
  have hserial : (fixSerialFeatures s).value.serial = s₁.serial := by rw [hvalue, needPort_value, hserial₂]
  have hprovider : (fixSerialFeatures s).value.gps.provider = s.gps.provider := by rw [fixSerialFeatures_value]
  have hsub₂ : (fixSerialFeatures s).value.features ⊆ s₂.features := by
    rw [hvalue]
    exact (trims_needPort (by decide) _ _).subset
  have hsub₁ : s₂.features ⊆ s₁.features := (trims_needPort (by decide) _ _).subset
  refine ⟨fun hp => ?_, fun hp hf => ?_, fun hf => ?_, fun hf => ?_⟩
  · rw [hprovider] at hp
    rw [hserial, h₁, fixGpsPort_value]
    simp only [if_pos hp]
    exact SerialPorts.not_has_remove _ _
  · rw [hprovider] at hp
    rw [hserial]
    have hf : Feature.gps ∈ s₁.features := FlagSet.subset_iff.1 hsub₁ _ (FlagSet.subset_iff.1 hsub₂ _ hf)
    rw [h₁, fixGpsPort_value] at hf ⊢
    by_contra hh
    simp_all
  · rw [hserial]
    exact port_of_needPort (FlagSet.subset_iff.1 hsub₂ _ hf)
  · rw [hserial, ← hserial₂]
    exact port_of_needPort hf

/-! ## Rescue by GPS -/

/-- neither the failsafe nor a mode asks for a rescue that cannot work -/
structure RescueConsistent (caps : Capabilities) (s : Settings) : Prop where
  procedure : ¬ RescueAvailable caps s.features → s.failsafe.procedure ≠ .gpsRescue
  mode : ¬ RescueAvailable caps s.features → ¬ ModeConditions.Present s.modes .gpsRescue

theorem fixRescue_value (caps : Capabilities) (s : Settings) :
    (fixRescue caps s).value =
      { s with
        failsafe := { s.failsafe with
          procedure :=
            if ¬ RescueAvailable caps s.features ∧ s.failsafe.procedure = .gpsRescue then .drop
            else s.failsafe.procedure }
        modes := if RescueAvailable caps s.features then s.modes else ModeConditions.remove s.modes .gpsRescue } := by
  unfold fixRescue
  by_cases ha : RescueAvailable caps s.features <;> simp [ha]

theorem fixRescue_eq_pure {caps : Capabilities} {s : Settings} (h : RescueConsistent caps s) :
    fixRescue caps s = pure s := by
  unfold fixRescue
  split_ifs with ha
  · rfl
  · have hprocedure := Fixed.assignIf_eq_pure fun hp : s.failsafe.procedure = .gpsRescue =>
      (absurd hp (h.procedure ha) : s.failsafe.procedure = .drop)
    rw [hprocedure, ModeConditions.remove_eq_self (h.mode ha), decide_eq_false (h.mode ha)]
    rfl

theorem rescueConsistent_fixRescue (caps : Capabilities) (s : Settings) :
    RescueConsistent caps (fixRescue caps s).value := by
  rw [fixRescue_value]
  refine ⟨fun ha => ?_, fun ha => ?_⟩
  · have ha : ¬ RescueAvailable caps s.features := ha
    simp only [ha, not_false_eq_true, true_and]
    split_ifs with hp
    · decide
    · exact hp
  · have ha : ¬ RescueAvailable caps s.features := ha
    simp only [if_neg ha]
    exact ModeConditions.not_present_remove _ _

/-! ## Signal strength and smoothing -/

/-- there is at most one source of signal strength next to the frame errors -/
structure RssiConsistent (fs : FeatureSet) (r : Receiver) : Prop where
  channel : .rssiAdc ∈ fs → r.rssiChannel = 0
  frameErrors : .rssiAdc ∈ fs ∨ r.rssiChannel ≠ 0 ∨ .rxPpm ∈ fs ∨ .rxParallelPwm ∈ fs → r.rssiFromFrameErrors = false

theorem fixRssi_eq_pure {fs : FeatureSet} {r : Receiver} (h : RssiConsistent fs r) : fixRssi fs r = pure r := by
  unfold fixRssi
  split_ifs with hadc
  · rw [h.channel hadc, h.frameErrors (Or.inl hadc), Fixed.assign_self, Fixed.assign_self]
    simp only [pure_bind, ← h.channel hadc, ← h.frameErrors (Or.inl hadc)]
  · simp only [Fixed.assignIf_eq_pure fun hp => h.frameErrors (Or.inr hp), pure_bind]

theorem rssiConsistent_fixRssi (fs : FeatureSet) (r : Receiver) : RssiConsistent fs (fixRssi fs r).value := by
  unfold fixRssi
  split_ifs with hadc
  · exact ⟨fun _ => rfl, fun _ => rfl⟩
  · refine ⟨fun h => absurd h hadc, fun h => ?_⟩
    simp only [Fixed.value_bind, Fixed.value_pure, Fixed.value_assignIf]
    exact if_pos (h.resolve_left hadc)

theorem fixRssi_smoothing (fs : FeatureSet) (r : Receiver) :
    (fixRssi fs r).value.smoothing = r.smoothing ∧ (fixRssi fs r).value.smoothedChannels = r.smoothedChannels := by
  unfold fixRssi
  split_ifs <;> exact ⟨rfl, rfl⟩

/-- gains on the setpoint of an axis are zero where it is not smoothed -/
structure Unboosted (r : Receiver) (p : PidProfile) : Prop where
  roll : ¬ SmoothsRollPitch r → p.gains.roll.f = 0
  pitch : ¬ SmoothsRollPitch r → p.gains.pitch.f = 0
  yaw : ¬ SmoothsYaw r → p.gains.yaw.f = 0
  throttle : ¬ SmoothsThrottle r → p.throttleBoost = 0

theorem fixUnsmoothed_eq_pure {r : Receiver} {p : PidProfile} (h : Unboosted r p) : fixUnsmoothed r p = pure p := by
  simp only [fixUnsmoothed, Fixed.assignIf_eq_pure h.roll, Fixed.assignIf_eq_pure h.pitch,
    Fixed.assignIf_eq_pure h.yaw, Fixed.assignIf_eq_pure h.throttle, pure_bind]

theorem unboosted_fixUnsmoothed (r : Receiver) (p : PidProfile) : Unboosted r (fixUnsmoothed r p).value := by
  refine ⟨fun h => ?_, fun h => ?_, fun h => ?_, fun h => ?_⟩ <;>
    simp only [fixUnsmoothed, Fixed.value_bind, Fixed.value_pure, Fixed.value_assignIf, if_pos h]

theorem Unboosted.congr {r r' : Receiver} {p : PidProfile} (h : Unboosted r p) (hs : r'.smoothing = r.smoothing)
    (hc : r'.smoothedChannels = r.smoothedChannels) : Unboosted r' p := by
  obtain ⟨hroll, hpitch, hyaw, hthrottle⟩ := h
  unfold SmoothsRollPitch SmoothsYaw SmoothsThrottle at *
  rw [← hs, ← hc] at hroll hpitch hyaw hthrottle
  exact ⟨hroll, hpitch, hyaw, hthrottle⟩

/-! ## All of them -/

/-- features, ports, rescue, signal strength and smoothing agree -/
structure PeripheralsConsistent (caps : Capabilities) (s : Settings) : Prop where
  serial : SerialFeatures s
  rescue : RescueConsistent caps s
  rssi : RssiConsistent s.features s.receiver
  profiles : ∀ p ∈ s.pidProfiles, Unboosted s.receiver p

theorem fixPeripherals_eq_pure {caps : Capabilities} {s : Settings} (h : PeripheralsConsistent caps s) :
    fixPeripherals caps s = pure s := by
  have hslots := Fixed.slots_eq_pure fun p hp => fixUnsmoothed_eq_pure (h.profiles p hp)
  simp only [fixPeripherals, fixSerialFeatures_eq_pure h.serial, fixRescue_eq_pure h.rescue, fixRssi_eq_pure h.rssi,
    hslots, pure_bind]

theorem fixPeripherals_value (caps : Capabilities) (s : Settings) :
    (fixPeripherals caps s).value =
      { (fixRescue caps (fixSerialFeatures s).value).value with
        receiver := (fixRssi (fixSerialFeatures s).value.features s.receiver).value
        pidProfiles := (Fixed.slots (fixUnsmoothed s.receiver) s.pidProfiles).value } := by
  simp only [fixPeripherals, Fixed.value_bind, Fixed.value_pure]
  rw [fixRescue_value, fixSerialFeatures_value]

/-- the rule for peripherals changes nothing but these six groups -/
theorem fixPeripherals_frame (caps : Capabilities) (s : Settings) :
    (fixPeripherals caps s).value =
      { s with
        serial := (fixPeripherals caps s).value.serial
        features := (fixPeripherals caps s).value.features
        failsafe := (fixPeripherals caps s).value.failsafe
        modes := (fixPeripherals caps s).value.modes
        receiver := (fixPeripherals caps s).value.receiver
        pidProfiles := (fixPeripherals caps s).value.pidProfiles } := by
  rw [fixPeripherals_value, fixRescue_value, fixSerialFeatures_value]

/-- it takes away at most features that lack a port -/
theorem trims_fixPeripherals (caps : Capabilities) (s : Settings) :
    Trims s.features (fixPeripherals caps s).value.features := by
  rw [fixPeripherals_value, fixRescue_value]
  exact trims_fixSerialFeatures s

theorem valid_fixPeripherals (caps : Capabilities) {s : Settings} (h : s.serial.Valid) :
    (fixPeripherals caps s).value.serial.Valid := by
  rw [fixPeripherals_value, fixRescue_value, fixSerialFeatures_value]
  dsimp only
  split_ifs
  · exact SerialPorts.valid_remove_gps h
  · exact h

/-- it changes a PID profile only by zeroing gains on an unsmoothed setpoint -/
theorem forall_fixPeripherals (caps : Capabilities) {s : Settings} {P : PidProfile → Prop}
    (h : ∀ p ∈ s.pidProfiles, P (fixUnsmoothed s.receiver p).value) :
    ∀ p ∈ (fixPeripherals caps s).value.pidProfiles, P p := by
  rw [fixPeripherals_value]
  exact Fixed.forall_mem_slots h

theorem peripheralsConsistent_fixPeripherals (caps : Capabilities) (s : Settings) :
    PeripheralsConsistent caps (fixPeripherals caps s).value := by
  have hserial := serialFeatures_fixSerialFeatures s
  have hrescue := rescueConsistent_fixRescue caps (fixSerialFeatures s).value
  rw [fixPeripherals_value]
  rw [fixRescue_value] at hrescue ⊢
  refine ⟨⟨hserial.mspGps, hserial.gps, hserial.telemetry, hserial.escSensor⟩, ⟨hrescue.procedure, hrescue.mode⟩,
    rssiConsistent_fixRssi _ _, ?_⟩
  obtain ⟨hsmoothing, hchannels⟩ := fixRssi_smoothing (fixSerialFeatures s).value.features s.receiver
  exact Fixed.forall_mem_slots fun p _ => (unboosted_fixUnsmoothed s.receiver p).congr hsmoothing hchannels

end Repair
end FlightStore
