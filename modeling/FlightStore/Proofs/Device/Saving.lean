/-
What is left of edited settings when they cannot be saved.

A save is a write, then a load, whatever the write answered. So after a write that failed, the settings in memory last
only if the load finds no image without a fault (`save_of_failed_write`). If the medium still holds an older image,
the load takes the settings from there, and nothing of those in memory is left, although they keep their dirty mark.

Witness `save_loses_edit`: an edited debug mode, on a medium that holds an image and refuses to be written.
-/
import FlightStore.Proofs.Device.Writing
import FlightStore.Proofs.Repair.Stages

namespace FlightStore

/-- a medium that can be read and refuses to be written -/
structure WriteProtected where
  image : Image

instance : Storage WriteProtected Unit where
  read m := (.ok m.image, m)
  write _ m := (.error (), m)

/-- an image without a fault stands for the same settings whatever is in memory -/
theorem Image.decode_of_check {i : Image} (hcheck : i.check = .ok ()) (t : Target) :
    ∃ s, ∀ prior, i.decode t prior = .ok s := by
  obtain ⟨rs, hrecords⟩ := records_of_check hcheck
  refine ⟨restore t rs {}, fun prior => ?_⟩
  rw [decode, hcheck, hrecords]
  exact congrArg Except.ok (restore_congr (fun _ => rfl) t prior {})

namespace Device

variable {σ ε : Type} [Storage σ ε]

/-- the settings that a save is to write: those in memory, counted as configured by the user, and repaired -/
def savedSettings (d : Device σ) : Settings :=
  (Repair.repair d.target d.sensor { d.settings with system.configurationState := .configured }).settings

/-- a save is to write the system group as it is, counted as configured, if both indices have a slot -/
theorem system_savedSettings {d : Device σ} (h : d.settings.system.Indexed) :
    d.savedSettings.system = { d.settings.system with configurationState := .configured } :=
  Repair.system_repair_of_indexed d.target d.sensor
    (s := { d.settings with system.configurationState := .configured }) ⟨h.rate, h.pid⟩

/-! ## The write of a save -/

/-- a write leaves target and sensor, and in memory the settings that it was to write -/
theorem write_frame (d : Device σ) :
    d.write.2.target = d.target ∧ d.write.2.sensor = d.sensor ∧ d.write.2.settings = d.savedSettings := by
  have hsettings : d.write.2.settings = d.savedSettings := (honest_writeUnmodified d.markConfigured).settings
  have hframe := repairSettings_frame d.markConfigured
  have hstore := store_eq d.markConfigured.repairSettings.2
  refine ⟨?_, ?_, hsettings⟩
  · show d.markConfigured.repairSettings.2.store.2.target = d.target
    rw [hstore, hframe]
    rfl
  · show d.markConfigured.repairSettings.2.store.2.sensor = d.sensor
    rw [hstore, hframe]
    rfl

theorem dirty_write_of_error {d : Device σ} {e : StorageError ε} (h : d.write.1 = .error e) :
    d.write.2.dirty = d.dirty :=
  (honest_writeUnmodified d.markConfigured).dirty e h

/-! ## The load of a save -/

/-- a save leaves what its load leaves -/
theorem save_frame (d : Device σ) : d.save.settings = d.write.2.bootSettings ∧ d.save.dirty = d.write.2.dirty := by
  rw [save_eq, settings_trace, dirty_trace, load_frame]
  exact ⟨rfl, rfl⟩

/-- a save that finds no image without a fault keeps the settings that it was to write -/
theorem settings_save_of_nothing {d : Device σ} (ht : d.target.HasRadioDefault)
    (hnothing : ¬ ∃ i m, Storage.read d.write.2.storage = (.ok i, m) ∧ i.check = .ok ()) :
    d.save.settings = d.savedSettings := by
  obtain ⟨htarget, hsensor, hsettings⟩ := write_frame d
  have hload : d.write.2.load.1 = false := by
    rw [← Bool.not_eq_true, loaded_iff]
    exact hnothing
  have hradio : d.write.2.target.HasRadioDefault := by rwa [htarget]
  -- what was repaired for the write needs no repair at the load
  have hsettled : Repair.repair d.target d.sensor d.savedSettings = ⟨d.savedSettings, .empty⟩ :=
    Repair.repair_eq_self (Repair.repair_settled ht d.sensor _)
  calc d.save.settings = d.write.2.load.2.settings := (save_frame d).1.trans (settings_load d.write.2).symm
    _ = (Repair.repair d.write.2.target d.write.2.sensor d.write.2.settings).settings :=
      settings_of_not_loaded hradio hload
    _ = (Repair.repair d.target d.sensor d.savedSettings).settings := by rw [htarget, hsensor, hsettings]
    _ = d.savedSettings := by rw [hsettled]

/-- a save that finds an image without a fault takes the settings of this image -/
theorem settings_save_of_found {d : Device σ} {i : Image} {m : σ}
    (hread : Storage.read d.write.2.storage = (.ok i, m)) {s : Settings} (hdecode : ∀ prior, i.decode d.target prior = .ok s) :
    d.save.settings = (Repair.repair d.target d.sensor s).settings := by
  obtain ⟨htarget, hsensor, -⟩ := write_frame d
  have hload : (Storage.load d.target d.write.2.settings d.write.2.storage).result = .ok s := by
    rw [Storage.load_result (congrArg Prod.fst hread), hdecode]
    rfl
  calc d.save.settings = d.write.2.bootSettings := (save_frame d).1
    _ = (Repair.repair d.target d.sensor s).settings := by
      rw [bootSettings, htarget, hsensor, hload]
      rfl

/-! ## Saves that fail -/

/-- **A failed save keeps what the medium does not hold.** After a write that failed, a save leaves the settings that
it was to write if the medium answers no image without a fault. From such an image it takes the settings, and those in
memory are lost. The dirty mark stays as it was. -/
theorem save_of_failed_write (d : Device σ) (ht : d.target.HasRadioDefault) {e : StorageError ε}
    (hfailed : d.write.1 = .error e) :
    d.save.dirty = d.dirty ∧
      ((¬ ∃ i m, Storage.read d.write.2.storage = (.ok i, m) ∧ i.check = .ok ()) →
        d.save.settings = d.savedSettings) ∧
      ∀ i m, Storage.read d.write.2.storage = (.ok i, m) → i.check = .ok () →
        ∃ s, (∀ prior, i.decode d.target prior = .ok s) ∧
          d.save.settings = (Repair.repair d.target d.sensor s).settings := by
  refine ⟨?_, settings_save_of_nothing ht, fun i m hread hcheck => ?_⟩
  · exact (save_frame d).2.trans (dirty_write_of_error hfailed)
  · obtain ⟨s, hdecode⟩ := Image.decode_of_check hcheck d.target
    exact ⟨s, hdecode, settings_save_of_found hread hdecode⟩

/-! ## A medium that refuses to be written -/

theorem write_writeProtected (d : Device WriteProtected) :
    d.write.1 = .error (.medium ()) ∧ d.write.2.storage = d.storage := by
  have hframe := repairSettings_frame d.markConfigured
  set repaired := d.markConfigured.repairSettings.2
  have hstorage : repaired.storage = d.storage := by
    rw [hframe]
    rfl
  obtain ⟨i, hi, -⟩ := Storage.ofSettings_eq repaired.settings
  have hsave : Storage.save repaired.settings repaired.storage = ⟨.error (.medium ()), repaired.storage, [.write]⟩ := by
    rw [Storage.save, hi]
    rfl
  constructor
  · show (Storage.save repaired.settings repaired.storage).result = _
    rw [hsave]
  · show repaired.store.2.storage = d.storage
    rw [storage_store, hsave, hstorage]

/-- a device on the host whose debug mode was edited; its medium holds an image without records and refuses to be
written -/
def editedProtected : Device WriteProtected :=
  (Device.start .host ⟨Storage.noRecords⟩ .bmi160).setSettings
    { Settings.defaults .host with system.debugMode := 7 }

theorem read_editedProtected :
    Storage.read editedProtected.write.2.storage = (.ok Storage.noRecords, editedProtected.storage) := by
  rw [(write_writeProtected editedProtected).2]
  rfl

theorem save_of_failed_write_protected :
    (editedProtected.target.HasRadioDefault ∧ editedProtected.write.1 = .error (.medium ())) ∧
      editedProtected.save.dirty = editedProtected.dirty ∧
      ((¬ ∃ i m, Storage.read editedProtected.write.2.storage = (.ok i, m) ∧ i.check = .ok ()) →
        editedProtected.save.settings = editedProtected.savedSettings) ∧
      ∀ i m, Storage.read editedProtected.write.2.storage = (.ok i, m) → i.check = .ok () →
        ∃ s, (∀ prior, i.decode editedProtected.target prior = .ok s) ∧
          editedProtected.save.settings = (Repair.repair editedProtected.target editedProtected.sensor s).settings := by
  have htarget : editedProtected.target.HasRadioDefault := show Target.host.HasRadioDefault by decide
  have hfailed := (write_writeProtected editedProtected).1
  exact ⟨⟨htarget, hfailed⟩, save_of_failed_write editedProtected htarget hfailed⟩

/-- **A failed save loses an edit.** The write is refused, and the debug mode that was to be written is gone from
memory. -/
theorem save_loses_edit :
    editedProtected.target.HasRadioDefault ∧ editedProtected.write.1 = .error (.medium ()) ∧
      editedProtected.savedSettings.system.debugMode = 7 ∧ editedProtected.save.settings.system.debugMode = 0 := by
  refine ⟨show Target.host.HasRadioDefault by decide, (write_writeProtected editedProtected).1, ?_, ?_⟩
  · rw [system_savedSettings ⟨by decide, by decide⟩]
    rfl
  · obtain ⟨s, hdecode⟩ := Image.decode_of_check Storage.holds_noRecords.check_eq editedProtected.target
    -- a group that is not stored is as after a reset
    have hsystem : s.system = { boardIdentifier := editedProtected.target.boardIdentifier } := by
      have hs : s = Image.restore editedProtected.target [] {} := by
        have h := hdecode {}
        rw [Image.decode, Storage.holds_noRecords.check_eq, Storage.holds_noRecords.records_eq] at h
        exact (Except.ok.inj h).symm
      rw [hs]
      exact Image.part_restore .system editedProtected.target [] {}
    have hindexed : s.system.Indexed := by
      rw [hsystem]
      exact ⟨by decide, by decide⟩
    rw [settings_save_of_found read_editedProtected hdecode, Repair.system_repair_of_indexed _ _ hindexed, hsystem]

end Device
end FlightStore
