/-
The life of the settings on a device: loaded and activated at the start, written back, reset.

Loading never fails altogether: without a usable image the settings in memory are repaired and activated. Writing
repairs the settings first and clears the dirty mark only if the medium holds what was written. A save is a write,
then a load, then one pulse of confirmation.
-/
import FlightStore.Device.Basic

namespace FlightStore.Device

variable {σ ε : Type} [Storage σ ε]

/-- loads, repairs and activates the stored settings; `false` if those in memory were taken instead -/
def load (d : Device σ) : Bool × Device σ :=
  let loaded := Storage.load d.target d.settings d.storage
  let s := (Repair.repair d.target d.sensor (loaded.result.toOption.getD d.settings)).settings
  let calls := suspended (loaded.accesses.map .storage ++ activation d.target s)
  (loaded.result.toBool, { d with settings := s, storage := loaded.medium }.trace calls |>.reload)

/-- stores the settings in memory while sampling rests -/
def store (d : Device σ) : Except (StorageError ε) Unit × Device σ :=
  let saved := Storage.save d.settings d.storage
  let d := { d with storage := saved.medium }.trace (suspended (saved.accesses.map .storage))
  (saved.result, if saved.result.toBool then { d with dirty := false } else d)

/-- repairs the settings and stores them, without counting that as configuration by the user -/
def writeUnmodified (d : Device σ) : Except (StorageError ε) Unit × Device σ := d.repairSettings.2.store

/-- the settings counted as configured by the user -/
def markConfigured (d : Device σ) : Device σ :=
  { d with settings.system.configurationState := .configured }

/-- counts the settings as configured by the user and stores them -/
def write (d : Device σ) : Except (StorageError ε) Unit × Device σ := d.markConfigured.writeUnmodified

/-- replaces the enabled features and stores the settings -/
def writeWithFeatures (d : Device σ) (fs : FeatureSet) : Except (StorageError ε) Unit × Device σ :=
  { d with settings.features := fs }.write

/-- resets all settings, or takes the custom defaults of the target, and stores the result; `false`, and nothing stored,
if there are no custom defaults to take -/
def reset (d : Device σ) (custom : Bool) : Bool × Device σ :=
  if custom then
    match d.settings.resetToCustom d.target with
    | (s, .error _) => (false, d.setSettings s)
    | (s, .ok ()) => (true, (d.setSettings s).writeUnmodified.2)
  else (true, (d.setSettings (d.settings.resetAll d.target)).writeUnmodified.2)

/-- resets the settings if no image without a fault is stored -/
def ensureIntact (d : Device σ) : Device σ :=
  let found := Storage.intact d.storage
  let d := { d with storage := found.medium }.trace (suspended (found.accesses.map .storage))
  if found.result then d else (d.reset false).2

/-- writes the settings, loads them and confirms -/
def save (d : Device σ) : Device σ := d.write.2.load.2.trace [.acknowledge 1]

end FlightStore.Device
