/-
What each operation of a device changes.

For each operation one equation, or a choice of two, names what is new in the device and leaves the rest as it was: the
two ends of a selection, the slot that a reset or a copy of a profile writes to, settings and active slots of a repair,
medium and trace of what accesses the storage. All later facts about an operation are read off this one, so that only
here its definition is opened.
-/
import FlightStore.Device.Lifecycle
import FlightStore.Device.Profiles
import FlightStore.Proofs.Settings.Resets

namespace FlightStore.Device

variable {σ ε : Type}

theorem settings_trace (d : Device σ) (calls : List Call) : (d.trace calls).settings = d.settings := rfl

theorem dirty_trace (d : Device σ) (calls : List Call) : (d.trace calls).dirty = d.dirty := rfl

/-! ## Repairs -/

/-- pointing the active slots changes nothing else -/
theorem reload_frame (d : Device σ) :
    d.reload = { d with activePid := d.reload.activePid, activeRate := d.reload.activeRate } := by
  unfold reload reloadPid reloadRate
  dsimp only
  split_ifs <;> rfl

/-- a repair replaces the settings and then points the active slots -/
theorem repairSettings_reload (d : Device σ) :
    d.repairSettings.2 =
      ({ d with settings := (Repair.repair d.target d.sensor d.settings).settings } : Device σ).reload := by
  rw [repairSettings]

/-- a repair changes settings and active slots, and nothing else -/
theorem repairSettings_frame (d : Device σ) :
    d.repairSettings.2 = { d with
      settings := (Repair.repair d.target d.sensor d.settings).settings
      activePid := d.repairSettings.2.activePid
      activeRate := d.repairSettings.2.activeRate } := by
  rw [repairSettings_reload]
  exact reload_frame _

/-! ## Profiles -/

/-- the profile of a slot is put in use and handed over, and the motors get their end points -/
theorem usePid_eq {d : Device σ} {index : UInt8} (h : index.toNat < pidProfileCount) :
    d.usePid index =
      ({ d with settings.system.pidProfileIndex := index, activePid := index.toNat } : Device σ).trace
        [.startControlLaw d.settings.pidProfiles[index.toNat], .setEscEndpoints d.settings.motor] := by
  have hreload : ({ d with settings.system.pidProfileIndex := index } : Device σ).reloadPid =
      { d with settings.system.pidProfileIndex := index, activePid := index.toNat } := if_pos h
  have hprofile : ({ d with settings.system.pidProfileIndex := index, activePid := index.toNat } : Device σ).pidProfile? =
      some d.settings.pidProfiles[index.toNat] := Vector.getElem?_eq_getElem h
  unfold usePid
  rw [hreload]
  dsimp only
  rw [hprofile]

/-- a selection by hand stores the index, puts its slot in use and hands the profile over, if there is such a slot; it
is confirmed in any case -/
theorem selectPid_eq (d : Device σ) (index : UInt8) :
    d.selectPid index =
      if h : index.toNat < pidProfileCount then
        ({ d with settings.system.pidProfileIndex := index, activePid := index.toNat } : Device σ).trace
          [.startControlLaw d.settings.pidProfiles[index.toNat], .setEscEndpoints d.settings.motor,
            .acknowledge (index.toNat + 1)]
      else d.trace [.acknowledge (index.toNat + 1)] := by
  unfold selectPid
  split_ifs with hindex
  · rw [usePid_eq hindex]
    simp only [trace, List.append_assoc, List.cons_append, List.nil_append]
  · rfl

/-- the rate profile of a slot is put in use and handed over -/
theorem useRate_eq {d : Device σ} {index : UInt8} (h : index.toNat < rateProfileCount) :
    d.useRate index =
      ({ d with settings.system.rateProfileIndex := index, activeRate := index.toNat } : Device σ).trace
        [.loadRateProfile index.toNat d.settings.rateProfiles[index.toNat], .startStickProcessing] := by
  have hreload : ({ d with settings.system.rateProfileIndex := index } : Device σ).reloadRate =
      { d with settings.system.rateProfileIndex := index, activeRate := index.toNat } := if_pos h
  have hprofile :
      ({ d with settings.system.rateProfileIndex := index, activeRate := index.toNat } : Device σ).rateProfile? =
        some d.settings.rateProfiles[index.toNat] := Vector.getElem?_eq_getElem h
  unfold useRate
  rw [hreload]
  dsimp only
  rw [hprofile]

/-- a selection of a rate profile does the same without being confirmed -/
theorem selectRate_eq (d : Device σ) (index : UInt8) :
    d.selectRate index =
      if h : index.toNat < rateProfileCount then
        ({ d with settings.system.rateProfileIndex := index, activeRate := index.toNat } : Device σ).trace
          [.loadRateProfile index.toNat d.settings.rateProfiles[index.toNat], .startStickProcessing]
      else d := by
  unfold selectRate
  split_ifs with hindex
  · exact useRate_eq hindex
  · rfl

/-- the slot that is selected for the number of cells of a battery, if another one is -/
def autoSlot? (d : Device σ) (cells : UInt8) : Option Nat :=
  if d.slotHas (fun b => Matches cells b ∨ b = CellSelector.stayByte) d.activePid then none else d.candidate? cells

/-- after the battery, a profile is selected like by hand, or nothing happens -/
theorem autoSelect_eq (d : Device σ) (cells : UInt8) :
    d.autoSelect cells = (d.autoSlot? cells).elim d fun slot => d.selectPid (UInt8.ofNat slot) := by
  unfold autoSelect autoSlot?
  split_ifs
  · rfl
  · cases d.candidate? cells <;> rfl

/-- a reset of a profile changes PID profiles, and nothing else -/
theorem resetPid_frame (d : Device σ) (slot : Nat) :
    (d.resetPid slot).2 = { d with settings.pidProfiles := (d.resetPid slot).2.settings.pidProfiles } := by
  unfold resetPid
  split_ifs <;> rfl

/-- and so does a copy -/
theorem copyPid_frame (d : Device σ) (src dst : Nat) :
    (d.copyPid src dst).2 = { d with settings.pidProfiles := (d.copyPid src dst).2.settings.pidProfiles } := by
  unfold copyPid
  split_ifs <;> rfl

/-! ## Accesses to the medium -/

variable [Storage σ ε]

/-- storing changes nothing but the medium, the trace and the dirty mark -/
theorem store_eq (d : Device σ) :
    d.store.2 = { d with
      storage := (Storage.save d.settings d.storage).medium
      calls := d.calls ++ suspended ((Storage.save d.settings d.storage).accesses.map .storage)
      dirty := if (Storage.save d.settings d.storage).result.toBool then false else d.dirty } := by
  unfold store
  dsimp only
  split_ifs <;> rfl

theorem storage_store (d : Device σ) : d.store.2.storage = (Storage.save d.settings d.storage).medium := by
  rw [store_eq]

/-- the settings that a start takes: those stored, or else those in memory, repaired -/
def bootSettings (d : Device σ) : Settings :=
  let found := (Storage.load d.target d.settings d.storage).result.toOption
  (Repair.repair d.target d.sensor (found.getD d.settings)).settings

/-- the calls of a start -/
def bootCalls (d : Device σ) : List Call :=
  suspended ((Storage.load d.target d.settings d.storage).accesses.map .storage ++ activation d.target d.bootSettings)

/-- a load takes settings and medium, and then points the active slots -/
theorem load_reload (d : Device σ) :
    d.load.2 = (({ d with
      settings := d.bootSettings
      storage := (Storage.load d.target d.settings d.storage).medium } : Device σ).trace d.bootCalls).reload := by
  rw [load, bootSettings, bootCalls, bootSettings]

/-- a load changes settings, medium, trace and active slots, and nothing else -/
theorem load_frame (d : Device σ) :
    d.load.2 = { d with
      settings := d.bootSettings
      storage := (Storage.load d.target d.settings d.storage).medium
      calls := d.calls ++ d.bootCalls
      activePid := d.load.2.activePid
      activeRate := d.load.2.activeRate } := by
  rw [load_reload]
  exact reload_frame _

theorem settings_load (d : Device σ) : d.load.2.settings = d.bootSettings := by rw [load_frame]

theorem save_eq (d : Device σ) : d.save = d.write.2.load.2.trace [.acknowledge 1] := rfl

/-- a reset is refused, and the device is as it was; or it is taken, and other settings are written -/
theorem reset_cases (d : Device σ) (custom : Bool) :
    d.reset custom = (false, d) ∨ ∃ s, d.reset custom = (true, (d.setSettings s).writeUnmodified.2) := by
  cases custom with
  | false => exact .inr ⟨d.settings.resetAll d.target, rfl⟩
  | true =>
    rcases hreset : d.settings.resetToCustom d.target with ⟨s, e | u⟩
    · obtain ⟨rfl, -⟩ := ((Settings.resets d.target d.settings).refused s e).1 hreset
      refine .inl ?_
      unfold reset
      rw [if_pos rfl, hreset]
      rfl
    · refine .inr ⟨s, ?_⟩
      unfold reset
      rw [if_pos rfl, hreset]

/-- the device after its medium was looked at -/
def looked (d : Device σ) : Device σ :=
  ({ d with storage := (Storage.intact d.storage).medium } : Device σ).trace
    (suspended ((Storage.intact d.storage).accesses.map .storage))

/-- the check ends here if an image without a fault was found, and otherwise writes the defaults -/
theorem ensureIntact_eq (d : Device σ) :
    d.ensureIntact = if (Storage.intact d.storage).result then d.looked
      else (d.looked.setSettings (Settings.defaults d.target)).writeUnmodified.2 := by
  unfold ensureIntact reset
  dsimp only
  rw [Settings.resetAll_eq]
  rfl

end FlightStore.Device
