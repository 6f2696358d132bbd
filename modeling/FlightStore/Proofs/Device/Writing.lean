/-
What a write answers and leaves behind, on a medium that may do anything.

A medium may refuse to be written or read, drop what it is given, or store something else. `Honest` says what the
answer of a write is worth all the same: a success means that the image of the settings in memory was read back from
the medium, a fault leaves the dirty mark as it was, and the settings in memory are in either case those that were to
be written, repaired. `write_honest` proves it of all three writes.
-/
import FlightStore.Proofs.Device.Survival

namespace FlightStore

namespace Storage

variable {σ ε : Type} [Storage σ ε]

/-- a save succeeds exactly if the medium takes the image of the settings and then reads it back -/
theorem save_ok_iff (s : Settings) (m : σ) :
    (Storage.save s m).result = .ok () ↔
      ∃ i written, Image.ofSettings s = .ok i ∧ Storage.write i m = (.ok (), written) ∧
        Storage.read written = (.ok i, (Storage.save s m).medium) := by
  obtain ⟨i, hi, -⟩ := ofSettings_eq s
  have hsave : Storage.save s m = saveImage i m := by
    rw [save, hi]
  rw [hsave]
  constructor
  · intro h
    obtain ⟨written, hwrite, hread, hmedium⟩ := saveImage_ok h
    exact ⟨i, written, hi, hwrite, Prod.ext hread hmedium.symm⟩
  · rintro ⟨j, written, hj, hwrite, hread⟩
    obtain rfl : i = j := by
      rw [hi] at hj
      exact Except.ok.inj hj
    unfold saveImage
    rw [hwrite]
    dsimp only
    rw [hread]
    exact if_pos rfl

end Storage

namespace Device

variable {σ ε : Type}

/-! ## The dirty mark -/

variable [Storage σ ε]

/-- a success clears the dirty mark -/
theorem dirty_store_of_ok {d : Device σ} (h : d.store.1 = .ok ()) : d.store.2.dirty = false := by
  have hresult : (Storage.save d.settings d.storage).result = .ok () := h
  rw [store_eq, hresult]
  rfl

/-- a fault keeps the dirty mark -/
theorem dirty_store_of_error {d : Device σ} {e : StorageError ε} (h : d.store.1 = .error e) :
    d.store.2.dirty = d.dirty := by
  have hresult : (Storage.save d.settings d.storage).result = .error e := h
  rw [store_eq, hresult]
  rfl

/-! ## Writes -/

/-- what the answer of a write of settings is worth, and what the write leaves behind -/
structure Honest (d : Device σ) (edited : Settings) (answer : Except (StorageError ε) Unit) (d' : Device σ) : Prop where
  /-- the settings in memory are those to be written, repaired; nothing of them comes from the medium -/
  settings : d'.settings = (Repair.repair d.target d.sensor edited).settings
  /-- a success means that the medium took the image of these settings and that it was read back -/
  ok_iff : answer = .ok () ↔ ∃ i written, Image.ofSettings d'.settings = .ok i ∧
    Storage.write i d.storage = (.ok (), written) ∧ Storage.read written = (.ok i, d'.storage)
  clean : answer = .ok () → d'.dirty = false
  dirty : ∀ e, answer = .error e → d'.dirty = d.dirty
  rebootRequired : d'.rebootRequired = d.rebootRequired

theorem honest_writeUnmodified (d : Device σ) : Honest d d.settings d.writeUnmodified.1 d.writeUnmodified.2 := by
  have hframe := repairSettings_frame d
  set repaired := d.repairSettings.2
  have hstore := store_eq repaired
  have hsettings : repaired.settings = (Repair.repair d.target d.sensor d.settings).settings := by rw [hframe]
  have hstorage : repaired.storage = d.storage := by rw [hframe]
  have hdirty : repaired.dirty = d.dirty := by rw [hframe]
  have hkept : repaired.store.2.settings = repaired.settings := by rw [hstore]
  refine ⟨hkept.trans hsettings, ?_, dirty_store_of_ok, fun e he => ?_, ?_⟩
  · show repaired.store.1 = .ok () ↔ ∃ i written, Image.ofSettings repaired.store.2.settings = .ok i ∧
      Storage.write i d.storage = (.ok (), written) ∧ Storage.read written = (.ok i, repaired.store.2.storage)
    rw [hkept, ← hstorage, storage_store]
    exact Storage.save_ok_iff repaired.settings repaired.storage
  · exact (dirty_store_of_error he).trans hdirty
  · show repaired.store.2.rebootRequired = d.rebootRequired
    rw [hstore]
    show repaired.rebootRequired = d.rebootRequired
    rw [hframe]

/-- edits that only concern the settings do not change what a write is worth -/
theorem Honest.of_edited {d : Device σ} {s edited : Settings} {answer : Except (StorageError ε) Unit} {d' : Device σ}
    (h : Honest (d.setSettings s) edited answer d') : Honest d edited answer d' :=
  ⟨h.settings, h.ok_iff, h.clean, h.dirty, h.rebootRequired⟩

/-- **Writes are honest.** For every device and every medium, the three writes answer a success only for what was read
back, keep the dirty mark on a fault, and leave in memory the repair of what they were given. -/
theorem write_honest (d : Device σ) :
    Honest d d.settings d.writeUnmodified.1 d.writeUnmodified.2 ∧
      Honest d { d.settings with system.configurationState := .configured } d.write.1 d.write.2 ∧
      ∀ fs, Honest d { d.settings with features := fs, system.configurationState := .configured }
        (d.writeWithFeatures fs).1 (d.writeWithFeatures fs).2 := by
  refine ⟨honest_writeUnmodified d, ?_, fun fs => ?_⟩
  · exact (honest_writeUnmodified d.markConfigured).of_edited (d := d)
      (s := { d.settings with system.configurationState := .configured })
  · exact (honest_writeUnmodified (markConfigured { d with settings.features := fs })).of_edited (d := d)
      (s := { d.settings with features := fs, system.configurationState := .configured })

end Device
end FlightStore
