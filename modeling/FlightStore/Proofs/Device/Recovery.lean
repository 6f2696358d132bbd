/-
What the check of the storage at a start repairs.

`ensureIntact` looks whether an image without a fault is stored. `Recovered` lists what holds afterwards, whatever was
stored before: there is an image without a fault; if there was one, nothing changed; if there was none, the settings
are the repaired defaults of the target, whatever they were, and are what is stored; and a load finds them. It is
proved of every device whose medium can be depended on, by whether an image without a fault is found
(`recovered_of_intact`, `recovered_of_not_intact`). A medium in memory always can, and a file under any path that leads
to one or to nothing (`ensureIntact_recovers`).
-/
import FlightStore.Proofs.Device.Writing
import FlightStore.Proofs.Storage.Media

namespace FlightStore

namespace Storage

variable {σ ε : Type} [Storage σ ε]

/-! ## Looking at the storage -/

theorem medium_intact (m : σ) : (Storage.intact m).medium = (Storage.read m).2 := by
  unfold intact
  rcases Storage.read m with ⟨answer, m'⟩
  cases answer <;> rfl

theorem intact_iff (m : σ) :
    (Storage.intact m).result = true ↔ ∃ i, (Storage.read m).1 = .ok i ∧ i.check = .ok () := by
  unfold intact
  rcases Storage.read m with ⟨answer, m'⟩
  cases answer with
  | error e => simp
  | ok i =>
    cases hcheck : i.check with
    | error e => simp [hcheck, Except.toBool]
    | ok u => simp [hcheck, Except.toBool]

end Storage

namespace Device

variable {σ ε : Type} [Storage σ ε]

/-! ## The check -/

/-- what holds after the check of the storage -/
structure Recovered (d d' : Device σ) : Prop where
  intact : ∃ i, Storage.read d'.storage = (.ok i, d'.storage) ∧ i.check = .ok ()
  /-- an image without a fault is left alone, and so is everything else -/
  kept : ∀ i, (Storage.read d.storage).1 = .ok i → i.check = .ok () → d' = { d with calls := d'.calls }
  /-- without one, the settings are the defaults of the target, repaired; they are stored -/
  reset : (¬∃ i, (Storage.read d.storage).1 = .ok i ∧ i.check = .ok ()) →
    d'.settings = (Repair.repair d.target d.sensor (Settings.defaults d.target)).settings ∧ d'.dirty = false ∧
      ∃ i, (Storage.read d'.storage).1 = .ok i ∧ ∀ t prior, i.decode t prior = .ok d'.settings
  loads : d'.load.1 = true

/-- a write to a dependable medium succeeds, and what is in memory afterwards is what is stored -/
theorem writeUnmodified_of_dependable {d : Device σ} (h : Storage.Dependable d.storage) :
    d.writeUnmodified.1 = .ok () ∧ ∃ i : Image, i.Holds (Image.recordsOf d.writeUnmodified.2.settings) ∧
      Storage.read d.writeUnmodified.2.storage = (.ok i, d.writeUnmodified.2.storage) := by
  have hstorage : d.repairSettings.2.storage = d.storage := by rw [repairSettings_frame]
  have hsettings : d.writeUnmodified.2.settings = d.repairSettings.2.settings := by
    rw [writeUnmodified, store_eq]
  obtain ⟨hresult, i, hholds, hread⟩ := h.save d.repairSettings.2.settings
  rw [← hstorage] at hresult hread
  refine ⟨hresult, i, ?_, ?_⟩
  · rwa [hsettings]
  · rwa [writeUnmodified, storage_store]

theorem looked_eq {d : Device σ} (h : Storage.Dependable d.storage) :
    d.looked = { d with calls := d.looked.calls } := by
  have hmedium : (Storage.intact d.storage).medium = d.storage := (Storage.medium_intact d.storage).trans h.reads
  unfold looked
  rw [hmedium]
  rfl

/-- a device that found an image without a fault -/
theorem recovered_of_intact {d : Device σ} (h : Storage.Dependable d.storage)
    (hfound : (Storage.intact d.storage).result = true) : Recovered d d.ensureIntact := by
  obtain ⟨i, hread, hcheck⟩ := (Storage.intact_iff d.storage).1 hfound
  have hsame : d.ensureIntact = { d with calls := d.looked.calls } := by
    rw [ensureIntact_eq, if_pos hfound, looked_eq h]
  have hread' : Storage.read d.storage = (.ok i, d.storage) := Prod.ext hread h.reads
  rw [hsame]
  refine ⟨⟨i, hread', hcheck⟩, fun _ _ _ => rfl, fun hnone => absurd ⟨i, hread, hcheck⟩ hnone, ?_⟩
  exact (loaded_iff _).2 ⟨i, d.storage, hread', hcheck⟩

/-- a device that found none -/
theorem recovered_of_not_intact {d : Device σ} (h : Storage.Dependable d.storage)
    (hfound : (Storage.intact d.storage).result = false) : Recovered d d.ensureIntact := by
  have hnone : ¬∃ i, (Storage.read d.storage).1 = .ok i ∧ i.check = .ok () := by
    rw [← Storage.intact_iff, hfound]
    exact Bool.false_ne_true
  set fresh := d.looked.setSettings (Settings.defaults d.target) with hfresh
  have heq : d.ensureIntact = fresh.writeUnmodified.2 := by
    rw [ensureIntact_eq, hfound]
    rfl
  have hstorage : Storage.Dependable fresh.storage := by
    rw [hfresh, looked_eq h]
    exact h
  obtain ⟨hok, i, hholds, hread⟩ := writeUnmodified_of_dependable hstorage
  have hhonest := honest_writeUnmodified fresh
  rw [heq]
  refine ⟨⟨i, hread, hholds.check_eq⟩, fun j hj hcheck => absurd ⟨j, hj, hcheck⟩ hnone, fun _ => ?_, ?_⟩
  · exact ⟨hhonest.settings, hhonest.clean hok, i, congrArg Prod.fst hread, fun t prior => hholds.decode_eq t prior⟩
  · exact (loaded_iff _).2 ⟨i, _, hread, hholds.check_eq⟩

/--
**The storage is recovered.** On every medium that can be depended on, whatever it holds, and for every target, sensor
and settings in memory, there is an image without a fault after the check, and a load finds it. A medium in memory can
always be depended on, and so can a file, of any content or none, that its path leads to.
-/
theorem ensureIntact_recovers :
    (∀ {σ ε : Type} [Storage σ ε] (d : Device σ), Storage.Dependable d.storage → Recovered d d.ensureIntact) ∧
      (∀ d : Device Memory, Recovered d d.ensureIntact) ∧
      ∀ d : Device ImageFile, d.storage.files.Writable d.storage.path → Recovered d d.ensureIntact := by
  have hany : ∀ {σ ε : Type} [Storage σ ε] (d : Device σ), Storage.Dependable d.storage →
      Recovered d d.ensureIntact := by
    intro σ ε _ d h
    cases hfound : (Storage.intact d.storage).result with
    | true => exact recovered_of_intact h hfound
    | false => exact recovered_of_not_intact h hfound
  refine ⟨hany, fun d => ?_, fun d h => ?_⟩
  · exact hany d (Storage.dependable_memory d.storage)
  · exact hany d (Storage.dependable_imageFile h)

end Device

/-- a name without slashes leads to itself -/
theorem Files.locate_settings (fs : Files) : fs.locate "settings" = .ok ["settings"] := by
  have hsplit : "settings".splitOn "/" = ["settings"] := by
    have hslash : ("/" == "") = false := by decide +kernel
    rw [String.splitOn, hslash, if_neg Bool.false_ne_true]
    -- one unfolding for each letter
    iterate 8
      rw [String.splitOnAux, if_neg (by decide +kernel), if_neg (by decide +kernel)]
    rw [String.splitOnAux, if_pos (by decide +kernel)]
    decide +kernel
  have hnames : names "settings" = ["settings"] := by
    rw [names, hsplit, if_neg (by decide +kernel)]
    decide +kernel
  rw [locate, if_neg (by decide +kernel), if_neg (by decide +kernel), if_neg (by decide +kernel), hnames]
  rfl

namespace Device

/-- a device whose settings file was cut off after three bytes -/
def cutOff : Device ImageFile := .start .host ⟨⟨[(["settings"], .file [0x46, 0x43, 1])]⟩, "settings"⟩ .bmi160

theorem ensureIntact_recovers_cutOff :
    (Storage.Dependable cutOff.storage ∧ cutOff.storage.files.Writable cutOff.storage.path) ∧
      Recovered cutOff cutOff.ensureIntact ∧
      cutOff.ensureIntact.settings = (Repair.repair .host .bmi160 (Settings.defaults .host)).settings := by
  have hlocate := Files.locate_settings cutOff.storage.files
  have hlook : cutOff.storage.files.look ["settings"] = .ok (some (.file [0x46, 0x43, 1])) := rfl
  have hfile : Files.endsAsDirectory "settings" = false := by decide +kernel
  have hwritable : cutOff.storage.files.Writable cutOff.storage.path :=
    ⟨⟨["settings"], _, hlocate, hlook, .inr ⟨_, rfl⟩⟩, hfile⟩
  have hdependable := Storage.dependable_imageFile hwritable
  have hread : (Storage.read cutOff.storage).1 = .error (.wrongSize 3) := by
    rw [Storage.read_imageFile (Files.read_of_look hlocate hlook hfile)]
    rfl
  have hnone : ¬∃ i, (Storage.read cutOff.storage).1 = .ok i ∧ i.check = .ok () := by
    rintro ⟨i, hi, -⟩
    rw [hread] at hi
    cases hi
  have hrecovered := ensureIntact_recovers.1 cutOff hdependable
  exact ⟨⟨hdependable, hwritable⟩, ensureIntact_recovers.2.2 cutOff hwritable, (hrecovered.reset hnone).1⟩

end Device
end FlightStore
