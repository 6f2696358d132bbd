/-
Switching between profiles, by hand or after the battery.

A selection by hand is confirmed with one pulse more than the index, even if there is no such profile and nothing
changes. After the battery, the profile in use is kept if it is meant for its number of cells or stays. Otherwise the
other slots are looked through in a circle: the first profile for this number of cells wins, the first that stays is
the fallback.
-/
import FlightStore.Device.Basic

namespace FlightStore.Device

variable {σ : Type}

/-- uses the PID profile of a slot -/
def usePid (d : Device σ) (index : UInt8) : Device σ :=
  let d := { d with settings.system.pidProfileIndex := index }.reloadPid
  match d.pidProfile? with
  | some profile => d.trace [.startControlLaw profile, .setEscEndpoints d.settings.motor]
  | none => d

/-- selects a PID profile -/
def selectPid (d : Device σ) (index : UInt8) : Device σ :=
  (if index.toNat < pidProfileCount then d.usePid index else d).trace [.acknowledge (index.toNat + 1)]

/-- uses the rate profile of a slot -/
def useRate (d : Device σ) (index : UInt8) : Device σ :=
  let d := { d with settings.system.rateProfileIndex := index }.reloadRate
  match d.rateProfile? with
  | some profile => d.trace [.loadRateProfile d.activeRate profile, .startStickProcessing]
  | none => d

/-- selects a rate profile, if there is one with this index -/
def selectRate (d : Device σ) (index : UInt8) : Device σ :=
  if index.toNat < rateProfileCount then d.useRate index else d

/-- whether a stored byte asks for a number of cells -/
def Matches (cells : UInt8) (byte : Int8) : Prop := byte.toInt = (cells.toNat : Int)

instance (cells : UInt8) (byte : Int8) : Decidable (Matches cells byte) :=
  inferInstanceAs (Decidable (byte.toInt = (cells.toNat : Int)))

/-- the other slots, in a circle from the one after `slot` -/
def otherSlots (slot : Nat) : List Nat :=
  (List.range (pidProfileCount - 1)).map fun k => (slot + 1 + k) % pidProfileCount

/-- whether the profile of a slot has a stored byte of a kind -/
def slotHas (d : Device σ) (p : Int8 → Bool) (slot : Nat) : Bool :=
  match d.settings.pidProfiles[slot]? with
  | some profile => p profile.cellByte
  | none => false

/-- the slot to switch to for a number of cells, seen from a slot that does not fit -/
def candidate? (d : Device σ) (cells : UInt8) : Option Nat :=
  match (otherSlots d.activePid).find? (d.slotHas (Matches cells ·)) with
  | some slot => some slot
  | none => (otherSlots d.activePid).find? (d.slotHas (· = CellSelector.stayByte))

/-- selects the PID profile for the number of cells of a battery -/
def autoSelect (d : Device σ) (cells : UInt8) : Device σ :=
  if d.slotHas (fun b => Matches cells b ∨ b = CellSelector.stayByte) d.activePid then d
  else
    match d.candidate? cells with
    | some slot => d.selectPid (UInt8.ofNat slot)
    | none => d

/-- resets the PID profile of a slot; `false` if there is no such slot -/
def resetPid (d : Device σ) (slot : Nat) : Bool × Device σ :=
  if h : slot < pidProfileCount then
    (true, { d with settings.pidProfiles := d.settings.pidProfiles.set slot d.settings.pidProfiles[slot].reset h })
  else (false, d)

/-- copies a PID profile over another; `false` if a slot does not exist or both are the same -/
def copyPid (d : Device σ) (src dst : Nat) : Bool × Device σ :=
  if h : src ≠ dst ∧ src < pidProfileCount ∧ dst < pidProfileCount then
    have hs := h.2.1
    (true, { d with settings.pidProfiles := d.settings.pidProfiles.set dst d.settings.pidProfiles[src] h.2.2 })
  else (false, d)

end FlightStore.Device
