/-
A device: settings in memory, the medium they are stored on, and the state of the running firmware.

The active slots are the profiles that the firmware is using. `repairSettings` runs a repair pass on the settings in
memory and points the active slots at the stored indices.
-/
import FlightStore.Device.Call
import FlightStore.Repair.Pass

namespace FlightStore

structure Device (σ : Type) where
  settings : Settings
  target : Target
  storage : σ
  /-- the gyro sensor that the driver reports -/
  sensor : SensorModel
  /-- slot of the PID profile in use -/
  activePid : Nat := 0
  /-- slot of the rate profile in use -/
  activeRate : Nat := 0
  /-- settings were changed and not saved yet -/
  dirty : Bool := false
  rebootRequired : Bool := false
  /-- what was asked of firmware and storage so far -/
  calls : List Call := []

namespace Device

variable {σ : Type}

/-- a device with the defaults of its target, before anything is read or activated -/
def start (t : Target) (m : σ) (sensor : SensorModel) : Device σ :=
  { settings := .defaults t, target := t, storage := m, sensor := sensor }

/-- appends calls to the trace -/
def trace (d : Device σ) (calls : List Call) : Device σ := { d with calls := d.calls ++ calls }

/-- points the active PID profile at the stored index; an index past the last keeps the profile in use -/
def reloadPid (d : Device σ) : Device σ :=
  let slot := d.settings.system.pidProfileIndex.toNat
  if slot < pidProfileCount then { d with activePid := slot } else d

/-- points the active rate profile at the stored index; an index past the last keeps the profile in use -/
def reloadRate (d : Device σ) : Device σ :=
  let slot := d.settings.system.rateProfileIndex.toNat
  if slot < rateProfileCount then { d with activeRate := slot } else d

/-- points both active profiles at the stored indices -/
def reload (d : Device σ) : Device σ := d.reloadPid.reloadRate

/-- runs a repair pass on the settings in memory -/
def repairSettings (d : Device σ) : Repair.Report × Device σ :=
  let pass := Repair.repair d.target d.sensor d.settings
  (pass.report, { d with settings := pass.settings }.reload)

/-- the PID profile in use -/
def pidProfile? (d : Device σ) : Option PidProfile := d.settings.pidProfiles[d.activePid]?

/-- the rate profile in use -/
def rateProfile? (d : Device σ) : Option RateProfile := d.settings.rateProfiles[d.activeRate]?

/-- replaces the settings in memory -/
def setSettings (d : Device σ) (s : Settings) : Device σ := { d with settings := s }

/-- remembers that settings were changed -/
def markDirty (d : Device σ) : Device σ := { d with dirty := true }

/-- remembers that a change waits for the next start, and forbids arming until then -/
def requireReboot (d : Device σ) : Device σ := { d with rebootRequired := true }.trace [.disableArming]

end Device
end FlightStore
