/-
The trace of a device tells every access to its medium.

A logged medium writes down each access that is made to it (`Logged`) and answers like the medium inside, so a device
works on it as on any other. `Accounts` compares a device before and after: what is new in the log are the accesses
that are new in the trace. Each operation accounts for what it does (`accounts_perform`), and so does each run
(`accounts_run`): no access is missing from a trace, and none is told that was not made.
-/
import FlightStore.Proofs.Device.Runs

namespace FlightStore

/-- the access to the medium that a call is -/
def Call.access? : Call → Option Storage.Access
  | .storage access => some access
  | _ => none

/-- a medium that writes down each access -/
structure Logged (σ : Type) where
  medium : σ
  log : List Storage.Access := []

namespace Storage

variable {σ ε : Type} [Storage σ ε]

instance : Storage (Logged σ) ε where
  read m := ((Storage.read m.medium).1, ⟨(Storage.read m.medium).2, m.log ++ [.read]⟩)
  write i m := ((Storage.write i m.medium).1, ⟨(Storage.write i m.medium).2, m.log ++ [.write]⟩)

variable {m m' : Logged σ}

theorem log_of_read {answer : Except ε Image} (h : Storage.read m = (answer, m')) : m'.log = m.log ++ [.read] := by
  have hnext : (Storage.read m).2 = m' := congrArg Prod.snd h
  rw [← hnext]
  rfl

theorem log_of_write {i : Image} {answer : Except ε Unit} (h : Storage.write i m = (answer, m')) :
    m'.log = m.log ++ [.write] := by
  have hnext : (Storage.write i m).2 = m' := congrArg Prod.snd h
  rw [← hnext]
  rfl

theorem log_load (t : Target) (s : Settings) (m : Logged σ) :
    (Storage.load t s m).medium.log = m.log ++ (Storage.load t s m).accesses := by
  unfold load
  split <;> rename_i hread
  · exact log_of_read hread
  · exact log_of_read hread

theorem log_intact (m : Logged σ) :
    (Storage.intact m).medium.log = m.log ++ (Storage.intact m).accesses := by
  unfold intact
  split <;> rename_i hread
  · exact log_of_read hread
  · exact log_of_read hread

theorem log_saveImage (i : Image) (m : Logged σ) :
    (saveImage i m).medium.log = m.log ++ (saveImage i m).accesses := by
  unfold saveImage
  split <;> rename_i hwrite
  · exact log_of_write hwrite
  · split <;> rename_i hread
    · rw [log_of_read hread, log_of_write hwrite, List.append_assoc]
      rfl
    · rw [log_of_read hread, log_of_write hwrite, List.append_assoc]
      rfl

theorem log_save (s : Settings) (m : Logged σ) :
    (Storage.save s m).medium.log = m.log ++ (Storage.save s m).accesses := by
  unfold save
  split
  · exact (List.append_nil m.log).symm
  · exact log_saveImage _ m

end Storage

/-! ## Accounts -/

theorem access_storage (accesses : List Storage.Access) :
    (accesses.map Call.storage).filterMap Call.access? = accesses := by
  rw [List.filterMap_map]
  exact List.filterMap_some

theorem access_activation (t : Target) (s : Settings) : (activation t s).filterMap Call.access? = [] := by
  unfold activation activationWith
  split_ifs <;> rfl

namespace Device

variable {σ ε : Type} {d d' d'' : Device (Logged σ)}

/-- what is new in the log are the accesses that are new in the trace -/
def Accounts (d d' : Device (Logged σ)) : Prop :=
  ∃ calls, d'.calls = d.calls ++ calls ∧ d'.storage.log = d.storage.log ++ calls.filterMap Call.access?

/-- where the medium is left alone, it is enough that no new call is an access -/
theorem accounts_of_silent {calls : List Call} (hcalls : d'.calls = d.calls ++ calls) (hstorage : d'.storage = d.storage)
    (h : calls.filterMap Call.access? = []) : Accounts d d' :=
  ⟨calls, hcalls, by rw [hstorage, h, List.append_nil]⟩

theorem accounts_of_eq (hcalls : d'.calls = d.calls) (hstorage : d'.storage = d.storage) : Accounts d d' :=
  accounts_of_silent (hcalls.trans (List.append_nil d.calls).symm) hstorage rfl

theorem Accounts.trans (h : Accounts d d') (h' : Accounts d' d'') : Accounts d d'' := by
  obtain ⟨a, hcalls, hlog⟩ := h
  obtain ⟨b, hcalls', hlog'⟩ := h'
  refine ⟨a ++ b, ?_, ?_⟩
  · rw [hcalls', hcalls, List.append_assoc]
  · rw [hlog', hlog, List.filterMap_append, List.append_assoc]

/-! ## Operations -/

theorem accounts_trace (d : Device (Logged σ)) {calls : List Call} (h : calls.filterMap Call.access? = []) :
    Accounts d (d.trace calls) := accounts_of_silent rfl rfl h

theorem accounts_repairSettings (d : Device (Logged σ)) : Accounts d d.repairSettings.2 := by
  refine accounts_of_eq (calls_repairSettings d) ?_
  rw [repairSettings_frame]

theorem accounts_selectPid (d : Device (Logged σ)) (index : UInt8) : Accounts d (d.selectPid index) := by
  rw [selectPid_eq]
  split_ifs
  · exact accounts_of_silent rfl rfl rfl
  · exact accounts_trace d rfl

theorem accounts_autoSelect (d : Device (Logged σ)) (cells : UInt8) : Accounts d (d.autoSelect cells) := by
  rw [autoSelect_eq]
  cases d.autoSlot? cells with
  | none => exact accounts_of_eq rfl rfl
  | some slot => exact accounts_selectPid d _

theorem accounts_selectRate (d : Device (Logged σ)) (index : UInt8) : Accounts d (d.selectRate index) := by
  rw [selectRate_eq]
  split_ifs
  · exact accounts_of_silent rfl rfl rfl
  · exact accounts_of_eq rfl rfl

theorem accounts_resetPid (d : Device (Logged σ)) (slot : Nat) : Accounts d (d.resetPid slot).2 := by
  rw [resetPid_frame]
  exact accounts_of_eq rfl rfl

theorem accounts_copyPid (d : Device (Logged σ)) (src dst : Nat) : Accounts d (d.copyPid src dst).2 := by
  rw [copyPid_frame]
  exact accounts_of_eq rfl rfl

variable [Storage σ ε]

theorem accounts_store (d : Device (Logged σ)) : Accounts d d.store.2 := by
  rw [store_eq]
  refine ⟨suspended ((Storage.save d.settings d.storage).accesses.map .storage), rfl, ?_⟩
  rw [filterMap_suspended rfl rfl, access_storage]
  exact Storage.log_save d.settings d.storage

theorem accounts_writeUnmodified (d : Device (Logged σ)) : Accounts d d.writeUnmodified.2 :=
  (accounts_repairSettings d).trans (accounts_store d.repairSettings.2)

/-- settings may be edited before they are written -/
theorem accounts_writeUnmodified_of_edited {e : Device (Logged σ)} (hcalls : e.calls = d.calls)
    (hstorage : e.storage = d.storage) : Accounts d e.writeUnmodified.2 :=
  (accounts_of_eq hcalls hstorage).trans (accounts_writeUnmodified e)

theorem accounts_reset (d : Device (Logged σ)) (custom : Bool) : Accounts d (d.reset custom).2 := by
  rcases d.reset_cases custom with h | ⟨s, h⟩
  · rw [h]
    exact accounts_of_eq rfl rfl
  · rw [h]
    exact accounts_writeUnmodified_of_edited rfl rfl

theorem accounts_ensureIntact (d : Device (Logged σ)) : Accounts d d.ensureIntact := by
  have hlooked : Accounts d d.looked := by
    refine ⟨_, rfl, ?_⟩
    rw [filterMap_suspended rfl rfl, access_storage]
    exact Storage.log_intact d.storage
  rw [ensureIntact_eq]
  split_ifs
  · exact hlooked
  · exact hlooked.trans (accounts_writeUnmodified_of_edited rfl rfl)

theorem accounts_load (d : Device (Logged σ)) : Accounts d d.load.2 := by
  refine ⟨d.bootCalls, calls_load d, ?_⟩
  have hstorage : d.load.2.storage = (Storage.load d.target d.settings d.storage).medium := by rw [load_frame]
  rw [hstorage, Storage.log_load, bootCalls, filterMap_suspended rfl rfl, List.filterMap_append, access_storage,
    access_activation, List.append_nil]

theorem accounts_save (d : Device (Logged σ)) : Accounts d d.save := by
  have hwrite : Accounts d d.write.2 := accounts_writeUnmodified_of_edited rfl rfl
  rw [save_eq]
  exact (hwrite.trans (accounts_load d.write.2)).trans (accounts_trace _ rfl)

theorem accounts_perform (d : Device (Logged σ)) (op : Operation) : Accounts d (d.perform op) := by
  cases op with
  | load => exact accounts_load d
  | writeUnmodified => exact accounts_writeUnmodified d
  | write | writeWithFeatures fs => exact accounts_writeUnmodified_of_edited rfl rfl
  | reset custom => exact accounts_reset d custom
  | ensureIntact => exact accounts_ensureIntact d
  | save => exact accounts_save d
  | repairSettings => exact accounts_repairSettings d
  | selectPid index => exact accounts_selectPid d index
  | autoSelect cells => exact accounts_autoSelect d cells
  | selectRate index => exact accounts_selectRate d index
  | resetPid slot => exact accounts_resetPid d slot
  | copyPid src dst => exact accounts_copyPid d src dst
  | requireReboot => exact accounts_trace { d with rebootRequired := true } rfl
  | markDirty | edit s | sense sensor => exact accounts_of_eq rfl rfl

/-- **The trace tells every access.** What any operations in any order do to the medium is in the trace, and in this
order. -/
theorem accounts_run (d : Device (Logged σ)) (ops : List Operation) : Accounts d (d.run ops) := by
  induction ops generalizing d with
  | nil => exact accounts_of_eq rfl rfl
  | cons op ops ih =>
    rw [run_cons]
    exact (accounts_perform d op).trans (ih (d.perform op))

end Device
end FlightStore
