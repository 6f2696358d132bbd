/-
What a start leaves behind, whatever is stored.

Any medium may be read at a start: it may fail, or hold any bytes at all. `Booted` lists what holds then: no step of the
load goes past an end, divides by zero or overflows; afterwards the settings need no repair, the active slots are the
stored indices, the control law and the stick processing were handed the profiles in these slots, and without a usable
image the settings are those from before, repaired. `load_booted` proves it of every device whose target falls back to a
radio input. Witness `load_booted_wrecked`: an image with settings that break most rules is loaded, and repaired.
-/
import FlightStore.Proofs.Device.Checked
import FlightStore.Proofs.Device.Frames
import FlightStore.Proofs.Repair.Fixpoint
import FlightStore.Proofs.Storage.Load

namespace FlightStore

/-- the PID profile that a call hands to the control law -/
def Call.controlLaw? : Call → Option PidProfile
  | .startControlLaw profile => some profile
  | _ => none

/-- the slot and the rate profile that a call hands to the stick processing -/
def Call.stickRates? : Call → Option (Nat × RateProfile)
  | .loadRateProfile slot profile => some (slot, profile)
  | _ => none

/-! ## Handing over -/

theorem filterMap_suspended {α : Type} {f : Call → Option α} (hs : f .suspendSampling = none)
    (hr : f .resumeSampling = none) (calls : List Call) : (suspended calls).filterMap f = calls.filterMap f := by
  rw [suspended, List.filterMap_cons_none hs, List.filterMap_append, List.filterMap_cons_none hr, List.filterMap_nil,
    List.append_nil]

theorem filterMap_accesses {α : Type} {f : Call → Option α} (hf : ∀ a, f (.storage a) = none)
    (accesses : List Storage.Access) : (accesses.map Call.storage).filterMap f = [] := by
  rw [List.filterMap_map]
  exact List.filterMap_eq_nil_iff.2 fun a _ => hf a

/-- an activation hands over one PID profile, the one that the stored index points at -/
theorem controlLaw_activation (t : Target) (s : Settings) :
    (activation t s).filterMap Call.controlLaw? = [s.pidProfile] := by
  unfold activation activationWith
  split_ifs <;> rfl

/-- an activation hands over one rate profile, the one that the stored index points at -/
theorem stickRates_activation (t : Target) (s : Settings) :
    (activation t s).filterMap Call.stickRates? = [(s.system.rateProfileIndex.toNat, s.rateProfile)] := by
  unfold activation activationWith
  split_ifs <;> rfl

namespace Settings

variable {s : Settings}

theorem getElem?_pidProfile (h : s.system.Indexed) :
    s.pidProfiles[s.system.pidProfileIndex.toNat]? = some s.pidProfile := by
  rw [pidProfile, Vector.getElem?_eq_getElem h.pid]
  rfl

theorem getElem?_rateProfile (h : s.system.Indexed) :
    s.rateProfiles[s.system.rateProfileIndex.toNat]? = some s.rateProfile := by
  rw [rateProfile, Vector.getElem?_eq_getElem h.rate]
  rfl

end Settings

/-! ## Starts -/

namespace Device

variable {σ ε : Type}

/-- where the stored indices have slots, both active slots are the stored indices -/
theorem reload_eq {d : Device σ} {s : Settings} (hs : d.settings = s) (h : s.system.Indexed) :
    d.reload = { d with
      activePid := s.system.pidProfileIndex.toNat
      activeRate := s.system.rateProfileIndex.toNat } := by
  subst hs
  unfold reload reloadPid
  rw [if_pos h.pid]
  exact if_pos h.rate

/-- a device whose settings need no repair, with the profiles in use that the stored indices point at -/
structure Consistent (d : Device σ) : Prop where
  fixpoint : Repair.repair d.target d.sensor d.settings = ⟨d.settings, .empty⟩
  pidSlot : d.activePid = d.settings.system.pidProfileIndex.toNat
  pidSlot_lt : d.activePid < pidProfileCount
  rateSlot : d.activeRate = d.settings.system.rateProfileIndex.toNat
  rateSlot_lt : d.activeRate < rateProfileCount

/-- pointing the active slots at the indices of settings that need no repair -/
theorem consistent_reload {d : Device σ} (h : Repair.Settled d.target d.sensor d.settings) : d.reload.Consistent := by
  have hindexed : d.settings.system.Indexed := h .profileIndices
  rw [reload_eq rfl hindexed]
  exact ⟨Repair.repair_eq_self h, rfl, hindexed.pid, rfl, hindexed.rate⟩

variable [Storage σ ε]

/-- what a load answers and leaves behind -/
structure Booted (d : Device σ) (loaded : Bool) (d' : Device σ) : Prop where
  /-- the load with every step checked has a result, and this is it -/
  computed : d.load? = some (loaded, d')
  consistent : d'.Consistent
  target : d'.target = d.target
  sensor : d'.sensor = d.sensor
  /-- the profiles in use exist, and the control law and the stick processing got exactly them -/
  handedOver : ∃ calls pid rate, d'.calls = d.calls ++ calls ∧
    d'.pidProfile? = some pid ∧ calls.filterMap Call.controlLaw? = [pid] ∧
    d'.rateProfile? = some rate ∧ calls.filterMap Call.stickRates? = [(d'.activeRate, rate)]
  /-- an image was loaded if one without a fault was read -/
  loaded_iff : loaded = true ↔ ∃ i m, Storage.read d.storage = (.ok i, m) ∧ i.check = .ok ()
  /-- otherwise the settings are those from before, repaired -/
  fallback : loaded = false → d'.settings = (Repair.repair d.target d.sensor d.settings).settings

theorem loaded_iff (d : Device σ) :
    (d.load).1 = true ↔ ∃ i m, Storage.read d.storage = (.ok i, m) ∧ i.check = .ok () := by
  show (Storage.load d.target d.settings d.storage).result.toBool = true ↔ _
  unfold Storage.load
  rcases hread : Storage.read d.storage with ⟨answer, m⟩
  cases answer with
  | error e =>
    refine ⟨fun h => absurd h Bool.false_ne_true, ?_⟩
    rintro ⟨i, m', hi, -⟩
    cases hi
  | ok i =>
    show ((i.decode d.target d.settings).mapError StorageError.image).toBool = true ↔ _
    rw [Image.decode]
    rcases hcheck : i.check with e | u
    · refine ⟨fun h => absurd h Bool.false_ne_true, ?_⟩
      rintro ⟨j, m', hj, hok⟩
      cases hj
      rw [hcheck] at hok
      cases hok
    · exact ⟨fun _ => ⟨i, m, rfl, hcheck⟩, fun _ => rfl⟩

theorem indexed_bootSettings {d : Device σ} (ht : d.target.HasRadioDefault) : d.bootSettings.system.Indexed :=
  Repair.repair_settled ht d.sensor _ .profileIndices

/-- what a load changes: settings, medium, active slots and trace -/
theorem load_eq {d : Device σ} (ht : d.target.HasRadioDefault) :
    d.load.2 = { d with
      settings := d.bootSettings
      storage := (Storage.load d.target d.settings d.storage).medium
      calls := d.calls ++ d.bootCalls
      activePid := d.bootSettings.system.pidProfileIndex.toNat
      activeRate := d.bootSettings.system.rateProfileIndex.toNat } := by
  have hindexed := indexed_bootSettings ht
  rw [load_reload, reload_eq rfl hindexed]
  rfl

theorem consistent_load {d : Device σ} (ht : d.target.HasRadioDefault) : d.load.2.Consistent := by
  rw [load_reload]
  exact consistent_reload (Repair.repair_settled ht d.sensor _)

/-- a start hands over the profiles that end up in use -/
theorem handedOver_load {d : Device σ} (ht : d.target.HasRadioDefault) :
    ∃ calls pid rate, d.load.2.calls = d.calls ++ calls ∧
      d.load.2.pidProfile? = some pid ∧ calls.filterMap Call.controlLaw? = [pid] ∧
      d.load.2.rateProfile? = some rate ∧ calls.filterMap Call.stickRates? = [(d.load.2.activeRate, rate)] := by
  have hindexed := indexed_bootSettings ht
  rw [load_eq ht]
  refine ⟨d.bootCalls, d.bootSettings.pidProfile, d.bootSettings.rateProfile, rfl,
    Settings.getElem?_pidProfile hindexed, ?_, Settings.getElem?_rateProfile hindexed, ?_⟩
  · rw [bootCalls, filterMap_suspended rfl rfl, List.filterMap_append, filterMap_accesses fun _ => rfl,
      controlLaw_activation, List.nil_append]
  · rw [bootCalls, filterMap_suspended rfl rfl, List.filterMap_append, filterMap_accesses fun _ => rfl,
      stickRates_activation, List.nil_append]

/-- a load that finds nothing usable keeps the settings in memory, repaired -/
theorem settings_of_not_loaded {d : Device σ} (ht : d.target.HasRadioDefault) (h : d.load.1 = false) :
    d.load.2.settings = (Repair.repair d.target d.sensor d.settings).settings := by
  have hresult : (Storage.load d.target d.settings d.storage).result.toBool = false := h
  rw [load_eq ht]
  show d.bootSettings = _
  rw [bootSettings]
  cases hload : (Storage.load d.target d.settings d.storage).result with
  | error e => rfl
  | ok s =>
    rw [hload] at hresult
    cases hresult

/-- a load that finds settings takes them, repaired -/
theorem load_stored {d : Device σ} {s : Settings} (h : Storage.Stored s d.storage) :
    d.load.1 = true ∧ d.load.2.settings = (Repair.repair d.target d.sensor s).settings := by
  have hload := Storage.load_of_stored h d.target d.settings
  constructor
  · show (Storage.load d.target d.settings d.storage).result.toBool = true
    rw [hload]
    rfl
  · rw [settings_load, bootSettings, hload]
    rfl

/-- **Any storage boots.** Whatever a medium answers, a load comes to its end and leaves a consistent device behind. -/
theorem load_booted (d : Device σ) (ht : d.target.HasRadioDefault) : Booted d d.load.1 d.load.2 where
  computed := load?_eq d
  consistent := consistent_load ht
  target := by rw [load_eq ht]
  sensor := by rw [load_eq ht]
  handedOver := handedOver_load ht
  loaded_iff := loaded_iff d
  fallback := settings_of_not_loaded ht

/-- a start of the host target from an image of wrecked settings -/
def wreckedStart : Device Memory :=
  Device.start .host ⟨(Image.ofSettings Repair.wrecked).toOption.getD .erased⟩ .icm20649

theorem stored_wreckedStart : Storage.Stored Repair.wrecked wreckedStart.storage := by
  obtain ⟨i, hi, hholds⟩ := Storage.ofSettings_eq Repair.wrecked
  refine ⟨i, ?_, hholds⟩
  show Except.ok ((Image.ofSettings Repair.wrecked).toOption.getD .erased) = _
  rw [hi]
  rfl

/-- the wrecked settings are found, and do not stay as they are -/
theorem load_booted_wrecked :
    wreckedStart.target.HasRadioDefault ∧
      wreckedStart.load.1 = true ∧
      wreckedStart.load.2.settings = (Repair.repair .host .icm20649 Repair.wrecked).settings ∧
      wreckedStart.load.2.settings ≠ Repair.wrecked ∧
      Booted wreckedStart wreckedStart.load.1 wreckedStart.load.2 := by
  have ht : wreckedStart.target.HasRadioDefault := show Target.host.HasRadioDefault by decide
  obtain ⟨hloaded, hsettings⟩ := load_stored stored_wreckedStart
  refine ⟨ht, hloaded, hsettings, fun heq => ?_, load_booted wreckedStart ht⟩
  -- the index of the PID profile pointed past the last slot
  have hindexed := indexed_bootSettings ht
  rw [← settings_load, heq] at hindexed
  exact absurd hindexed.pid (by decide)

end Device
end FlightStore
