/-
Features, ports and receiver of a craft agree after repair.

`Consistent` says what a pilot may rely on once a pass is through, without the rules that bring it about: rule by rule,
the facts are established early and read what later rules still write, such as the ports that lose GPS after they were
found valid. The setpoints that are smoothed are spelled out stick by stick (`Receiver.Smooths`), and
`unboosted_iff` shows that the rule, which asks about them in another way, speaks of the same ones.
-/
import FlightStore.Proofs.Repair.Fixpoint

namespace FlightStore

/-! ## Smoothed setpoints -/

/-- what a pilot moves on the radio -/
inductive Stick where
  | roll
  | pitch
  | yaw
  | throttle
deriving DecidableEq, Repr

/-- the sticks that a choice of channels stands for, letter by letter -/
def SmoothedChannels.sticks : SmoothedChannels → List Stick
  | rp => [.roll, .pitch]
  | rpy => [.roll, .pitch, .yaw]
  | rpyt => [.roll, .pitch, .yaw, .throttle]
  | t => [.throttle]
  | rpt => [.roll, .pitch, .throttle]

/-- whether the setpoint of a stick is smoothed -/
def Receiver.Smooths (r : Receiver) (stick : Stick) : Prop := r.smoothing ∧ stick ∈ r.smoothedChannels.sticks

/-- what a profile adds to the output from changes of a setpoint: feed-forward of an axis, or the throttle boost -/
def PidProfile.boost (p : PidProfile) : Stick → Nat
  | .roll => p.gains.roll.f.toNat
  | .pitch => p.gains.pitch.f.toNat
  | .yaw => p.gains.yaw.f.toNat
  | .throttle => p.throttleBoost.toNat

namespace Repair

/-- what the rule asks of the receiver for a stick -/
def RuleSmooths (r : Receiver) : Stick → Prop
  | .roll | .pitch => SmoothsRollPitch r
  | .yaw => SmoothsYaw r
  | .throttle => SmoothsThrottle r

theorem smooths_iff (r : Receiver) (stick : Stick) : r.Smooths stick ↔ RuleSmooths r stick := by
  unfold Receiver.Smooths
  cases stick <;> cases hchannels : r.smoothedChannels <;>
    simp [RuleSmooths, SmoothsRollPitch, SmoothsYaw, SmoothsThrottle, SmoothedChannels.sticks,
      SmoothedChannels.includesYaw, SmoothedChannels.includesThrottle, hchannels]

/-- a profile has no gain on a setpoint that is not smoothed, axis by axis and stick by stick -/
theorem unboosted_iff {r : Receiver} {p : PidProfile} :
    Unboosted r p ↔ ∀ stick : Stick, ¬ r.Smooths stick → p.boost stick = 0 := by
  simp only [smooths_iff]
  constructor
  · intro h stick hrough
    cases stick with
    | roll => exact UInt16.toNat_inj.2 (h.roll hrough)
    | pitch => exact UInt16.toNat_inj.2 (h.pitch hrough)
    | yaw => exact UInt16.toNat_inj.2 (h.yaw hrough)
    | throttle => exact UInt8.toNat_inj.2 (h.throttle hrough)
  · intro h
    refine ⟨fun hrough => ?_, fun hrough => ?_, fun hrough => ?_, fun hrough => ?_⟩
    · exact UInt16.toNat_inj.1 (h .roll hrough)
    · exact UInt16.toNat_inj.1 (h .pitch hrough)
    · exact UInt16.toNat_inj.1 (h .yaw hrough)
    · exact UInt8.toNat_inj.1 (h .throttle hrough)

/-! ## Consistency -/

/-- whether a failsafe or a mode asks for rescue by GPS -/
def AsksForRescue (s : Settings) : Prop :=
  s.failsafe.procedure = .gpsRescue ∨ ∃ c ∈ s.modes.items, c.mode = .gpsRescue

/-- features, ports and receiver agree with each other and with what a board can do -/
structure Consistent (caps : Capabilities) (s : Settings) : Prop where
  ports : s.serial.Valid
  supported : ¬ s.features.Meets (unsupported caps)
  softSpi : .softSpi ∈ s.features → ¬ s.features.Meets softSpiExcluded
  /-- positions from a companion device leave no port to GPS, all other positions need one -/
  mspGps : s.gps.provider = .msp → ∀ p ∈ s.serial.ports.items, .gps ∉ p.functions
  gps : .gps ∈ s.features → s.gps.provider ≠ .msp → ∃ p ∈ s.serial.ports.items, .gps ∈ p.functions
  telemetry : .telemetry ∈ s.features → s.serial.Has SerialFunctions.telemetry
  escSensor : .escSensor ∈ s.features → ∃ p ∈ s.serial.ports.items, .escSensor ∈ p.functions
  rescue : AsksForRescue s → .gps ∈ s.features ∧ .threeD ∉ s.features ∧ .gps ∈ caps ∧ .gpsRescue ∈ caps
  /-- there is one source of signal strength -/
  frameErrors : s.receiver.rssiFromFrameErrors = true →
    s.receiver.rssiChannel = 0 ∧ .rssiAdc ∉ s.features ∧ .rxPpm ∉ s.features ∧ .rxParallelPwm ∉ s.features
  rssiAdc : .rssiAdc ∈ s.features → s.receiver.rssiChannel = 0
  flash : s.blackbox.device = .flash → .flashFs ∈ caps
  sdCard : s.blackbox.device = .sdCard → .sdCard ∈ caps
  /-- nothing is added from a setpoint that jumps -/
  boost : ∀ p ∈ s.pidProfiles, ∀ stick : Stick, ¬ s.receiver.Smooths stick → p.boost stick = 0

variable {caps : Capabilities} {s : Settings}

theorem has_only {ports : SerialPorts} {f : SerialFunction} :
    ports.Has (.only f) ↔ ∃ p ∈ ports.ports.items, f ∈ p.functions := by
  simp only [SerialPorts.Has, FlagSet.meets_only]

theorem softSpi_bars {t : Target} {fs : FeatureSet} (h : SingleRadio t fs) (hspi : .softSpi ∈ fs) :
    ¬ fs.Meets softSpiExcluded := by
  have hbarred := h.barred
  rwa [excluded, if_pos hspi] at hbarred

theorem rescueAvailable_of_asks (h : RescueConsistent caps s) (hasks : AsksForRescue s) :
    RescueAvailable caps s.features := by
  by_contra hunavailable
  exact hasks.elim (h.procedure hunavailable) (h.mode hunavailable)

/-- signal strength from frame errors leaves no room for another source -/
theorem no_other_rssi {fs : FeatureSet} {r : Receiver} (h : RssiConsistent fs r) (hr : r.rssiFromFrameErrors = true) :
    r.rssiChannel = 0 ∧ .rssiAdc ∉ fs ∧ .rxPpm ∉ fs ∧ .rxParallelPwm ∉ fs := by
  have hnone : ¬ (.rssiAdc ∈ fs ∨ r.rssiChannel ≠ 0 ∨ .rxPpm ∈ fs ∨ .rxParallelPwm ∈ fs) := by
    intro hother
    rw [h.frameErrors hother] at hr
    cases hr
  obtain ⟨hadc, hchannel, hppm, hpwm⟩ : .rssiAdc ∉ fs ∧ ¬ r.rssiChannel ≠ 0 ∧ .rxPpm ∉ fs ∧ .rxParallelPwm ∉ fs := by
    simpa only [not_or] using hnone
  exact ⟨not_not.1 hchannel, hadc, hppm, hpwm⟩

/-- **Repair makes a craft consistent.** For all settings, every sensor and every target that falls back to a radio
input, features, ports and receiver agree after a pass. -/
theorem repair_consistent (t : Target) (ht : t.HasRadioDefault) (sensor : SensorModel) (s : Settings) :
    Consistent t.capabilities (repair t sensor s).settings := by
  have hsettled := repair_settled ht sensor s
  have hports : (repair t sensor s).settings.serial.Valid := hsettled .serialPorts
  have hsupported : Supported t (repair t sensor s).settings := hsettled .capabilities
  have hradio : SingleRadio t (repair t sensor s).settings.features := hsettled .rxExclusion
  obtain ⟨hserial, hrescue, hrssi, hprofiles⟩ :
    PeripheralsConsistent t.capabilities (repair t sensor s).settings := hsettled .peripherals
  refine ⟨hports, hsupported.features, softSpi_bars hradio, fun hmsp p hp hgps => ?_, fun hgps hmsp => ?_,
    hserial.telemetry, fun hesc => ?_, fun hasks => ?_, no_other_rssi hrssi, hrssi.channel, fun hflash => ?_,
    fun hcard => ?_, fun p hp => unboosted_iff.1 (hprofiles p hp)⟩
  · exact hserial.mspGps hmsp (has_only.2 ⟨p, hp, hgps⟩)
  · exact has_only.1 (hserial.gps hmsp hgps)
  · exact has_only.1 (hserial.escSensor hesc)
  · obtain ⟨hthreeD, hgps, hcapGps, hcapRescue⟩ := rescueAvailable_of_asks hrescue hasks
    exact ⟨hgps, hthreeD, hcapGps, hcapRescue⟩
  · have husable := hsupported.device
    rwa [hflash] at husable
  · have husable := hsupported.device
    rwa [hcard] at husable

theorem repair_consistent_wrecked :
    Target.host.HasRadioDefault ∧
      Consistent Target.host.capabilities (repair .host .icm20649 wrecked).settings :=
  ⟨by decide, repair_consistent .host (by decide) .icm20649 wrecked⟩

end Repair
end FlightStore
