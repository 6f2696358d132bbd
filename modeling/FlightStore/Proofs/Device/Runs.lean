/-
Runs of a device: operations one after the other, and the calls that they add to the trace.

An operation is what the firmware asks of a device, or a change around it: settings in memory are edited, the driver
reports another sensor. A run takes any operations in any order. The medium is a parameter: one of a suitable type
answers each access with any fault or image, so a theorem about all media is one about all outcomes of the storage.

`Adds P` relates a device to a later one by what it did in between: new calls with the property `P` follow those from
before. Writes, resets and the check of the stored image only access the medium (`Accesses`), as do all operations that
are quiet.
-/
import FlightStore.Device.Profiles
import FlightStore.Proofs.Device.Writing

namespace FlightStore

inductive Operation where
  | load
  | writeUnmodified
  | write
  | writeWithFeatures (fs : FeatureSet)
  | reset (custom : Bool)
  | ensureIntact
  | save
  | repairSettings
  | selectPid (index : UInt8)
  | autoSelect (cells : UInt8)
  | selectRate (index : UInt8)
  | resetPid (slot : Nat)
  | copyPid (src dst : Nat)
  | markDirty
  | requireReboot
  /-- the settings in memory are replaced, by whatever their user likes -/
  | edit (s : Settings)
  /-- the driver reports another sensor from now on -/
  | sense (sensor : SensorModel)

/-- whether an operation asks for nothing but accesses to the medium -/
def Operation.quiet : Operation → Bool
  | .load | .save | .selectPid _ | .autoSelect _ | .selectRate _ | .requireReboot => false
  | _ => true

namespace Device

section Perform

variable {σ ε : Type} [Storage σ ε]

/-- one operation -/
def perform (d : Device σ) : Operation → Device σ
  | .load => d.load.2
  | .writeUnmodified => d.writeUnmodified.2
  | .write => d.write.2
  | .writeWithFeatures fs => (d.writeWithFeatures fs).2
  | .reset custom => (d.reset custom).2
  | .ensureIntact => d.ensureIntact
  | .save => d.save
  | .repairSettings => d.repairSettings.2
  | .selectPid index => d.selectPid index
  | .autoSelect cells => d.autoSelect cells
  | .selectRate index => d.selectRate index
  | .resetPid slot => (d.resetPid slot).2
  | .copyPid src dst => (d.copyPid src dst).2
  | .markDirty => d.markDirty
  | .requireReboot => d.requireReboot
  | .edit s => d.setSettings s
  | .sense sensor => { d with sensor }

/-- operations one after the other -/
def run (d : Device σ) (ops : List Operation) : Device σ := ops.foldl perform d

theorem run_cons (d : Device σ) (op : Operation) (ops : List Operation) :
    d.run (op :: ops) = (d.perform op).run ops := rfl

theorem run_load (d : Device σ) : d.run [.load] = d.load.2 := rfl

theorem run_append_singleton (d : Device σ) (ops : List Operation) (op : Operation) :
    d.run (ops ++ [op]) = (d.run ops).perform op := List.foldl_append

/-! ## The target -/

theorem target_writeUnmodified (d : Device σ) : d.writeUnmodified.2.target = d.target := by
  rw [writeUnmodified, store_eq, repairSettings_frame]

theorem target_load (d : Device σ) : d.load.2.target = d.target := by rw [load_frame]

theorem target_save (d : Device σ) : d.save.target = d.target := by
  have hwrite : d.write.2.target = d.target := target_writeUnmodified d.markConfigured
  rw [save_eq, trace]
  exact (target_load d.write.2).trans hwrite

theorem target_selectPid (d : Device σ) (index : UInt8) : (d.selectPid index).target = d.target := by
  rw [selectPid_eq]
  split_ifs <;> rfl

/-- no operation makes another target of a device -/
theorem target_perform (d : Device σ) (op : Operation) : (d.perform op).target = d.target := by
  cases op with
  | load => exact target_load d
  | writeUnmodified => exact target_writeUnmodified d
  | write => exact target_writeUnmodified d.markConfigured
  | writeWithFeatures fs => exact target_writeUnmodified (markConfigured { d with settings.features := fs })
  | reset custom =>
    show (d.reset custom).2.target = d.target
    rcases d.reset_cases custom with h | ⟨s, h⟩
    · rw [h]
    · rw [h]
      exact target_writeUnmodified (d.setSettings s)
  | ensureIntact =>
    show d.ensureIntact.target = d.target
    rw [ensureIntact_eq]
    split_ifs
    · rfl
    · exact target_writeUnmodified (d.looked.setSettings (Settings.defaults d.target))
  | save => exact target_save d
  | repairSettings =>
    show d.repairSettings.2.target = d.target
    rw [repairSettings_frame]
  | selectPid index => exact target_selectPid d index
  | autoSelect cells =>
    show (d.autoSelect cells).target = d.target
    rw [autoSelect_eq]
    cases d.autoSlot? cells with
    | none => rfl
    | some slot => exact target_selectPid d (UInt8.ofNat slot)
  | selectRate index =>
    show (d.selectRate index).target = d.target
    rw [selectRate_eq]
    split_ifs <;> rfl
  | resetPid slot =>
    show (d.resetPid slot).2.target = d.target
    rw [resetPid_frame]
  | copyPid src dst =>
    show (d.copyPid src dst).2.target = d.target
    rw [copyPid_frame]
  | markDirty | requireReboot | edit s | sense sensor => rfl

theorem target_run (d : Device σ) (ops : List Operation) : (d.run ops).target = d.target := by
  induction ops generalizing d with
  | nil => rfl
  | cons op ops ih => rw [run_cons, ih, target_perform]

end Perform

/-! ## New calls -/

section Adds

variable {σ : Type} {P Q R : List Call → Prop} {d d' d'' : Device σ}

/-- the trace of a later device is that of a device, and then new calls with a property -/
def Adds (P : List Call → Prop) (d d' : Device σ) : Prop := ∃ calls, d'.calls = d.calls ++ calls ∧ P calls

theorem Adds.none (hP : P []) (h : d'.calls = d.calls) : Adds P d d' := ⟨[], by rw [h, List.append_nil], hP⟩

theorem adds_trace {calls : List Call} (hP : P calls) (d : Device σ) : Adds P d (d.trace calls) := ⟨calls, rfl, hP⟩

theorem Adds.mono (h : Adds P d d') (hPQ : ∀ calls, P calls → Q calls) : Adds Q d d' := by
  obtain ⟨calls, hcalls, hP⟩ := h
  exact ⟨calls, hcalls, hPQ calls hP⟩

/-- the calls of two steps follow each other -/
theorem Adds.trans (h : Adds P d d') (h' : Adds Q d' d'') (hR : ∀ a b, P a → Q b → R (a ++ b)) : Adds R d d'' := by
  obtain ⟨a, ha, hP⟩ := h
  obtain ⟨b, hb, hQ⟩ := h'
  exact ⟨a ++ b, by rw [hb, ha, List.append_assoc], hR a b hP hQ⟩

end Adds

/-! ## Accesses to the medium -/

/-- calls that are nothing but accesses to the medium, each block of them while sampling rests -/
def Accesses (calls : List Call) : Prop :=
  ∃ blocks : List (List Storage.Access), calls = blocks.flatMap fun accesses => suspended (accesses.map .storage)

theorem accesses_nil : Accesses [] := ⟨[], rfl⟩

theorem accesses_block (accesses : List Storage.Access) : Accesses (suspended (accesses.map .storage)) :=
  ⟨[accesses], by simp⟩

/-- what holds of no calls, of each block and of what follows each other -/
theorem Accesses.induct {P : List Call → Prop} (hnil : P [])
    (hblock : ∀ accesses : List Storage.Access, P (suspended (accesses.map .storage)))
    (happend : ∀ a b, P a → P b → P (a ++ b)) {calls : List Call} (h : Accesses calls) : P calls := by
  obtain ⟨blocks, rfl⟩ := h
  induction blocks with
  | nil => exact hnil
  | cons accesses blocks ih =>
    rw [List.flatMap_cons]
    exact happend _ _ (hblock accesses) ih

theorem Accesses.append {a b : List Call} (ha : Accesses a) (hb : Accesses b) : Accesses (a ++ b) := by
  obtain ⟨blocks, rfl⟩ := ha
  obtain ⟨blocks', rfl⟩ := hb
  exact ⟨blocks ++ blocks', by rw [List.flatMap_append]⟩

section Frames

variable {σ ε : Type} {d d' : Device σ}

theorem calls_repairSettings (d : Device σ) : d.repairSettings.2.calls = d.calls := by rw [repairSettings_frame]

theorem calls_resetPid (d : Device σ) (slot : Nat) : (d.resetPid slot).2.calls = d.calls := by rw [resetPid_frame]

theorem calls_copyPid (d : Device σ) (src dst : Nat) : (d.copyPid src dst).2.calls = d.calls := by rw [copyPid_frame]

variable [Storage σ ε]

theorem adds_store (d : Device σ) : Adds Accesses d d.store.2 := by
  rw [store_eq]
  exact ⟨_, rfl, accesses_block _⟩

theorem adds_writeUnmodified (d : Device σ) : Adds Accesses d d.writeUnmodified.2 :=
  (Adds.none (P := Accesses) accesses_nil (calls_repairSettings d)).trans (adds_store _) fun _ _ => Accesses.append

/-- settings may be edited before they are written -/
theorem adds_writeUnmodified_of_edited {e : Device σ} (he : e.calls = d.calls) : Adds Accesses d e.writeUnmodified.2 :=
  (Adds.none (P := Accesses) accesses_nil he).trans (adds_writeUnmodified e) fun _ _ => Accesses.append

theorem adds_reset (d : Device σ) (custom : Bool) : Adds Accesses d (d.reset custom).2 := by
  rcases d.reset_cases custom with h | ⟨s, h⟩
  · rw [h]
    exact Adds.none accesses_nil rfl
  · rw [h]
    exact adds_writeUnmodified_of_edited rfl

theorem adds_ensureIntact (d : Device σ) : Adds Accesses d d.ensureIntact := by
  have hlooked : Adds Accesses d d.looked := ⟨_, rfl, accesses_block _⟩
  rw [ensureIntact_eq]
  split_ifs
  · exact hlooked
  · exact hlooked.trans (adds_writeUnmodified_of_edited rfl) fun _ _ => Accesses.append

theorem adds_perform_of_quiet (d : Device σ) {op : Operation} (h : op.quiet = true) :
    Adds Accesses d (d.perform op) := by
  cases op with
  | writeUnmodified => exact adds_writeUnmodified d
  | write => exact adds_writeUnmodified_of_edited (e := d.markConfigured) rfl
  | writeWithFeatures fs =>
    exact adds_writeUnmodified_of_edited (e := markConfigured { d with settings.features := fs }) rfl
  | reset custom => exact adds_reset d custom
  | ensureIntact => exact adds_ensureIntact d
  | repairSettings => exact Adds.none accesses_nil (calls_repairSettings d)
  | resetPid slot => exact Adds.none accesses_nil (calls_resetPid d slot)
  | copyPid src dst => exact Adds.none accesses_nil (calls_copyPid d src dst)
  | markDirty | edit s | sense sensor => exact Adds.none accesses_nil rfl
  | _ => exact Bool.noConfusion h

/-- a load accesses the medium and hands the settings over, both while sampling rests -/
theorem calls_load (d : Device σ) : d.load.2.calls = d.calls ++ d.bootCalls := by
  rw [load_frame]

/-- a save only accesses the medium, then it loads and confirms -/
theorem adds_save (d : Device σ) {P : List Call → Prop}
    (hP : ∀ written, Accesses written → P (written ++ d.write.2.bootCalls ++ [.acknowledge 1])) : Adds P d d.save := by
  obtain ⟨written, hwritten, haccesses⟩ := adds_writeUnmodified_of_edited (d := d) (e := d.markConfigured) rfl
  refine ⟨written ++ d.write.2.bootCalls ++ [.acknowledge 1], ?_, hP written haccesses⟩
  show d.write.2.load.2.calls ++ [.acknowledge 1] = _
  rw [calls_load]
  show d.markConfigured.writeUnmodified.2.calls ++ _ ++ _ = _
  rw [hwritten, List.append_assoc, List.append_assoc, List.append_assoc]

end Frames

end Device
end FlightStore
