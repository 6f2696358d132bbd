/-
The active slots through a run.

A device is aligned if both stored indices have slots and these are the active ones (`Aligned`). Whatever is stored and
whatever the target, a load leaves an aligned device, and so does every repair. From there the settings may be written,
reset and saved in any order: only an edit of the settings can set the indices and the active slots apart
(`aligned_run`). An aligned device that is repaired or written keeps its active slots, because a repair has no index to
move.
-/
import FlightStore.Proofs.Device.Runs
import FlightStore.Proofs.Repair.Stages

namespace FlightStore

/-- whether an operation replaces the settings in memory by others at will -/
def Operation.edits : Operation → Bool
  | .edit _ => true
  | _ => false

/-- slots of the two kinds of profiles, as far as there are any -/
structure Slots where
  pid : Option Nat := none
  rate : Option Nat := none
deriving DecidableEq

/-- the slots that the stored indices point at -/
def SystemState.slots (s : SystemState) : Slots := ⟨some s.pidProfileIndex.toNat, some s.rateProfileIndex.toNat⟩

namespace Device

/-- the active slots -/
def slots {σ : Type} (d : Device σ) : Slots := ⟨some d.activePid, some d.activeRate⟩

/-- both stored indices have slots, and these are the active ones -/
structure Aligned {σ : Type} (d : Device σ) : Prop where
  indexed : d.settings.system.Indexed
  pid : d.activePid = d.settings.system.pidProfileIndex.toNat
  rate : d.activeRate = d.settings.system.rateProfileIndex.toNat

variable {σ ε : Type} {d : Device σ}

theorem Aligned.slots_eq (h : d.Aligned) : d.slots = d.settings.system.slots := by
  rw [slots, h.pid, h.rate]
  rfl

/-- the trace says nothing about slots -/
theorem Aligned.trace (h : d.Aligned) (calls : List Call) : (d.trace calls).Aligned := ⟨h.indexed, h.pid, h.rate⟩

theorem Aligned.configured (h : d.Aligned) : d.markConfigured.Aligned :=
  ⟨⟨h.indexed.rate, h.indexed.pid⟩, h.pid, h.rate⟩

theorem aligned_reload (h : d.settings.system.Indexed) : d.reload.Aligned := by
  rw [reload_eq rfl h]
  exact ⟨h, rfl, rfl⟩

theorem aligned_repairSettings (d : Device σ) : d.repairSettings.2.Aligned := by
  rw [repairSettings_reload]
  exact aligned_reload (Repair.indexed_repair d.target d.sensor d.settings)

/-- a repair has no index to move where the active slots are the stored indices -/
theorem Aligned.slots_repairSettings (h : d.Aligned) : d.repairSettings.2.slots = d.slots := by
  have hsystem : d.repairSettings.2.settings.system = d.settings.system := by
    rw [repairSettings_frame]
    exact Repair.system_repair_of_indexed d.target d.sensor h.indexed
  rw [(aligned_repairSettings d).slots_eq, hsystem, h.slots_eq]

/-! ## Selections -/

theorem Aligned.selectPid (h : d.Aligned) (index : UInt8) : (d.selectPid index).Aligned := by
  rw [selectPid_eq]
  split_ifs with hindex
  · exact ⟨⟨h.indexed.rate, hindex⟩, rfl, h.rate⟩
  · exact h.trace _

theorem Aligned.autoSelect (h : d.Aligned) (cells : UInt8) : (d.autoSelect cells).Aligned := by
  rw [autoSelect_eq]
  cases d.autoSlot? cells with
  | none => exact h
  | some slot => exact h.selectPid (UInt8.ofNat slot)

theorem Aligned.selectRate (h : d.Aligned) (index : UInt8) : (d.selectRate index).Aligned := by
  rw [selectRate_eq]
  split_ifs with hindex
  · exact ⟨⟨hindex, h.indexed.pid⟩, h.pid, rfl⟩
  · exact h

theorem Aligned.resetPid (h : d.Aligned) (slot : Nat) : (d.resetPid slot).2.Aligned := by
  rw [resetPid_frame]
  exact ⟨h.indexed, h.pid, h.rate⟩

theorem Aligned.copyPid (h : d.Aligned) (src dst : Nat) : (d.copyPid src dst).2.Aligned := by
  rw [copyPid_frame]
  exact ⟨h.indexed, h.pid, h.rate⟩

/-! ## Loads and writes -/

variable [Storage σ ε]

theorem aligned_load (d : Device σ) : d.load.2.Aligned := by
  rw [load_reload]
  exact aligned_reload (Repair.indexed_repair d.target d.sensor _)

theorem Aligned.store (h : d.Aligned) : d.store.2.Aligned := by
  rw [store_eq]
  exact ⟨h.indexed, h.pid, h.rate⟩

theorem aligned_writeUnmodified (d : Device σ) : d.writeUnmodified.2.Aligned :=
  (aligned_repairSettings d).store

theorem Aligned.reset (h : d.Aligned) (custom : Bool) : (d.reset custom).2.Aligned := by
  rcases d.reset_cases custom with hreset | ⟨s, hreset⟩
  · rwa [hreset]
  · rw [hreset]
    exact aligned_writeUnmodified _

theorem Aligned.ensureIntact (h : d.Aligned) : d.ensureIntact.Aligned := by
  rw [ensureIntact_eq]
  split_ifs
  · exact ⟨h.indexed, h.pid, h.rate⟩
  · exact aligned_writeUnmodified _

theorem aligned_save (d : Device σ) : d.save.Aligned := by
  rw [save_eq]
  exact (aligned_load d.write.2).trace _

theorem slots_store (d : Device σ) : d.store.2.slots = d.slots := by
  rw [store_eq]
  rfl

theorem Aligned.slots_writeUnmodified (h : d.Aligned) : d.writeUnmodified.2.slots = d.slots :=
  (slots_store d.repairSettings.2).trans h.slots_repairSettings

/-! ## Runs -/

/-- all but an edit keeps a device aligned -/
theorem Aligned.perform (h : d.Aligned) {op : Operation} (hop : op.edits = false) : (d.perform op).Aligned := by
  cases op with
  | load => exact aligned_load d
  | writeUnmodified => exact aligned_writeUnmodified d
  | write => exact aligned_writeUnmodified d.markConfigured
  | writeWithFeatures fs => exact aligned_writeUnmodified (markConfigured { d with settings.features := fs })
  | reset custom => exact h.reset custom
  | ensureIntact => exact h.ensureIntact
  | save => exact aligned_save d
  | repairSettings => exact aligned_repairSettings d
  | selectPid index => exact h.selectPid index
  | autoSelect cells => exact h.autoSelect cells
  | selectRate index => exact h.selectRate index
  | resetPid slot => exact h.resetPid slot
  | copyPid src dst => exact h.copyPid src dst
  | markDirty => exact ⟨h.indexed, h.pid, h.rate⟩
  | requireReboot => exact Aligned.trace (d := { d with rebootRequired := true }) ⟨h.indexed, h.pid, h.rate⟩ _
  | edit s => exact Bool.noConfusion hop
  | sense sensor => exact ⟨h.indexed, h.pid, h.rate⟩

theorem Aligned.run (h : d.Aligned) {ops : List Operation} (hops : ∀ op ∈ ops, op.edits = false) :
    (d.run ops).Aligned := by
  induction ops generalizing d with
  | nil => exact h
  | cons op ops ih =>
    have hstep := h.perform (hops op List.mem_cons_self)
    rw [run_cons]
    exact ih hstep fun op' hop' => hops op' (List.mem_cons_of_mem op hop')

/-- **Only an edit sets indices and slots apart.** From a load on, the active slots are the stored indices. -/
theorem aligned_run (d : Device σ) {ops : List Operation} (hops : ∀ op ∈ ops, op.edits = false) :
    (d.run (.load :: ops)).Aligned :=
  (aligned_load d).run hops

end Device
end FlightStore
