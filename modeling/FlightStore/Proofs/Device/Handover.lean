/-
Whether the firmware uses the active profiles.

The control law works with the PID profile that it was handed last, the stick processing with the last rate profile.
`Device.handover` says from which slots an operation takes what it hands over, and `handover_exact` that its calls are
just these. A tracked device (`Tracked`) also keeps the slots that were handed over last; without them it is the device
of the run (`run_device`), and `track_used` finds the profiles from these slots in the trace. The active profiles are in
use (`InUse`) if these slots are the active ones.

Loads, saves and selections hand over what they make active, and writes and repairs move no slot. A reset may make other
slots active, and hands nothing over. So the firmware uses the active profiles after each operation exactly if no reset
moves the active slots (`run_inUse_iff`).

Witness `reset_not_handedOver`: profiles are selected and the settings reset. The first profiles are active then, and
the firmware still uses those selected.
-/
import FlightStore.Proofs.Device.Slots
import FlightStore.Proofs.Device.Saving

namespace FlightStore

/-- whether an operation resets the settings, at least for some media -/
def Operation.resets : Operation → Bool
  | .reset _ | .ensureIntact => true
  | _ => false

/-- slots in the place of those from before -/
def Slots.over (new old : Slots) : Slots := ⟨new.pid.or old.pid, new.rate.or old.rate⟩

/-- calls that hand over the profiles in some slots of settings, and no other -/
structure HandsOver (slots : Slots) (s : Settings) (calls : List Call) : Prop where
  pid_lt : ∀ slot, slots.pid = some slot → slot < pidProfileCount
  rate_lt : ∀ slot, slots.rate = some slot → slot < rateProfileCount
  controlLaw : calls.filterMap Call.controlLaw? = (slots.pid.bind fun slot => s.pidProfiles[slot]?).toList
  stickRates : calls.filterMap Call.stickRates? =
    (slots.rate.bind fun slot => s.rateProfiles[slot]?.map fun profile => (slot, profile)).toList

namespace HandsOver

variable {s s' : Settings} {slots : Slots} {calls calls' : List Call}

theorem of_none (hpid : calls.filterMap Call.controlLaw? = []) (hrate : calls.filterMap Call.stickRates? = []) :
    HandsOver {} s calls where
  pid_lt := by simp
  rate_lt := by simp
  controlLaw := hpid
  stickRates := hrate

theorem of_pid {slot : Nat} (h : slot < pidProfileCount)
    (hpid : calls.filterMap Call.controlLaw? = [s.pidProfiles[slot]]) (hrate : calls.filterMap Call.stickRates? = []) :
    HandsOver { pid := some slot } s calls where
  pid_lt := by simpa using h
  rate_lt := by simp
  controlLaw := by
    rw [hpid, Option.bind_some, Vector.getElem?_eq_getElem h]
    rfl
  stickRates := hrate

theorem of_rate {slot : Nat} (h : slot < rateProfileCount) (hpid : calls.filterMap Call.controlLaw? = [])
    (hrate : calls.filterMap Call.stickRates? = [(slot, s.rateProfiles[slot])]) :
    HandsOver { rate := some slot } s calls where
  pid_lt := by simp
  rate_lt := by simpa using h
  controlLaw := hpid
  stickRates := by
    rw [hrate, Option.bind_some, Vector.getElem?_eq_getElem h]
    rfl

/-- calls around others that hand nothing over do not count -/
theorem append (h : HandsOver {} s' calls) (h' : HandsOver slots s calls') : HandsOver slots s (calls ++ calls') := by
  refine ⟨h'.pid_lt, h'.rate_lt, ?_, ?_⟩
  · rw [List.filterMap_append, h.controlLaw, h'.controlLaw]
    rfl
  · rw [List.filterMap_append, h.stickRates, h'.stickRates]
    rfl

theorem append_none (h : HandsOver slots s calls) (h' : HandsOver {} s' calls') : HandsOver slots s (calls ++ calls') := by
  refine ⟨h.pid_lt, h.rate_lt, ?_, ?_⟩
  · rw [List.filterMap_append, h.controlLaw, h'.controlLaw]
    exact List.append_nil _
  · rw [List.filterMap_append, h.stickRates, h'.stickRates]
    exact List.append_nil _

end HandsOver

namespace Device

variable {σ ε : Type} {d : Device σ}

theorem Accesses.handsOver_none {s : Settings} {calls : List Call} (h : Accesses calls) : HandsOver {} s calls := by
  refine h.induct (.of_none rfl rfl) (fun accesses => .of_none ?_ ?_) fun a b => HandsOver.append
  · rw [filterMap_suspended rfl rfl, filterMap_accesses fun _ => rfl]
  · rw [filterMap_suspended rfl rfl, filterMap_accesses fun _ => rfl]

theorem autoSlot?_lt {cells : UInt8} {slot : Nat} (h : d.autoSlot? cells = some slot) : slot < pidProfileCount := by
  have hother : ∀ p, (otherSlots d.activePid).find? p = some slot → slot < pidProfileCount := by
    intro p hp
    obtain ⟨k, -, hk⟩ := List.mem_map.1 (List.mem_of_find?_eq_some hp)
    rw [← hk]
    exact Nat.mod_lt _ (by decide)
  unfold autoSlot? at h
  split_ifs at h
  unfold candidate? at h
  split at h
  · rename_i found hfound
    obtain rfl : found = slot := Option.some.inj h
    exact hother _ hfound
  · exact hother _ h

/-- a slot fits into a byte -/
theorem toNat_ofNat_slot {slot : Nat} (h : slot < pidProfileCount) : (UInt8.ofNat slot).toNat = slot := by
  have hcount : pidProfileCount < 2 ^ 8 := by decide
  exact UInt8.toNat_ofNat_of_lt (h.trans hcount)

variable [Storage σ ε]

/-- the slots from which an operation takes the profiles that it hands over -/
def handover (d : Device σ) : Operation → Slots
  | .load => d.bootSettings.system.slots
  | .save => d.write.2.bootSettings.system.slots
  | .selectPid index => if index.toNat < pidProfileCount then { pid := some index.toNat } else {}
  | .autoSelect cells => { pid := d.autoSlot? cells }
  | .selectRate index => if index.toNat < rateProfileCount then { rate := some index.toNat } else {}
  | _ => {}

theorem handover_selectPid (d : Device σ) (index : UInt8) :
    d.handover (.selectPid index) = if index.toNat < pidProfileCount then { pid := some index.toNat } else {} := rfl

theorem handover_selectRate (d : Device σ) (index : UInt8) :
    d.handover (.selectRate index) = if index.toNat < rateProfileCount then { rate := some index.toNat } else {} := rfl

/-- an automatic selection is none, or one by hand -/
theorem autoSelect_cases (d : Device σ) (cells : UInt8) :
    (d.perform (.autoSelect cells) = d ∧ d.handover (.autoSelect cells) = {}) ∨
      ∃ index, d.perform (.autoSelect cells) = d.perform (.selectPid index) ∧
        d.handover (.autoSelect cells) = d.handover (.selectPid index) := by
  have hperform : d.perform (.autoSelect cells) = _ := autoSelect_eq d cells
  rw [hperform, handover]
  rcases hslot : d.autoSlot? cells with _ | slot
  · exact Or.inl ⟨rfl, rfl⟩
  · have hlt := autoSlot?_lt hslot
    refine Or.inr ⟨UInt8.ofNat slot, rfl, ?_⟩
    rw [handover_selectPid, toNat_ofNat_slot hlt, if_pos hlt]

/-! ## What the calls hand over -/

theorem handsOver_bootCalls (d : Device σ) : HandsOver d.bootSettings.system.slots d.bootSettings d.bootCalls := by
  have hindexed : d.bootSettings.system.Indexed := Repair.indexed_repair d.target d.sensor _
  refine ⟨?_, ?_, ?_, ?_⟩
  · rintro slot ⟨⟩
    exact hindexed.pid
  · rintro slot ⟨⟩
    exact hindexed.rate
  · rw [bootCalls, filterMap_suspended rfl rfl, List.filterMap_append, filterMap_accesses fun _ => rfl,
      controlLaw_activation, SystemState.slots, Option.bind_some, Settings.getElem?_pidProfile hindexed]
    rfl
  · rw [bootCalls, filterMap_suspended rfl rfl, List.filterMap_append, filterMap_accesses fun _ => rfl,
      stickRates_activation, SystemState.slots, Option.bind_some, Settings.getElem?_rateProfile hindexed]
    rfl

theorem handsOver_selectPid (d : Device σ) (index : UInt8) :
    Adds (HandsOver (d.handover (.selectPid index)) (d.selectPid index).settings) d (d.selectPid index) := by
  rw [handover_selectPid, selectPid_eq]
  split_ifs with hindex
  · exact ⟨_, rfl, .of_pid hindex rfl rfl⟩
  · exact adds_trace (.of_none rfl rfl) d

theorem handsOver_selectRate (d : Device σ) (index : UInt8) :
    Adds (HandsOver (d.handover (.selectRate index)) (d.selectRate index).settings) d (d.selectRate index) := by
  rw [handover_selectRate, selectRate_eq]
  split_ifs with hindex
  · exact ⟨_, rfl, .of_rate hindex rfl rfl⟩
  · exact Adds.none (.of_none rfl rfl) rfl

/-- **What is handed over.** The calls of an operation hand over the profiles in the slots of its handover, as they are
when it ends, and no other. -/
theorem handover_exact (d : Device σ) (op : Operation) :
    Adds (HandsOver (d.handover op) (d.perform op).settings) d (d.perform op) := by
  cases op with
  | load =>
    refine ⟨d.bootCalls, calls_load d, ?_⟩
    show HandsOver d.bootSettings.system.slots d.load.2.settings d.bootCalls
    rw [settings_load]
    exact handsOver_bootCalls d
  | save =>
    refine adds_save d fun written hwritten => ?_
    show HandsOver d.write.2.bootSettings.system.slots d.save.settings _
    rw [(save_frame d).1]
    have hnone : HandsOver {} d.settings [.acknowledge 1] := .of_none rfl rfl
    have hwrite : HandsOver {} d.settings written := hwritten.handsOver_none
    exact (hwrite.append (handsOver_bootCalls d.write.2)).append_none hnone
  | selectPid index => exact handsOver_selectPid d index
  | autoSelect cells =>
    rcases autoSelect_cases d cells with ⟨hperform, hnone⟩ | ⟨index, hperform, hsome⟩
    · rw [hperform, hnone]
      exact Adds.none (.of_none rfl rfl) rfl
    · rw [hperform, hsome]
      exact handsOver_selectPid d index
  | selectRate index => exact handsOver_selectRate d index
  | requireReboot => exact adds_trace (.of_none rfl rfl) { d with rebootRequired := true }
  | _ => exact (adds_perform_of_quiet d rfl).mono fun _ => Accesses.handsOver_none

end Device

/-! ## Tracked devices -/

/-- a device, and the slots whose profiles the firmware was handed last -/
structure Tracked (σ : Type) where
  device : Device σ
  used : Slots := {}

namespace Tracked

variable {σ ε : Type} [Storage σ ε]

def perform (t : Tracked σ) (op : Operation) : Tracked σ :=
  ⟨t.device.perform op, (t.device.handover op).over t.used⟩

def run (t : Tracked σ) (ops : List Operation) : Tracked σ := ops.foldl perform t

theorem run_append_singleton (t : Tracked σ) (ops : List Operation) (op : Operation) :
    t.run (ops ++ [op]) = (t.run ops).perform op := List.foldl_append

/-- **The projection is exact.** Tracking does not change the device. -/
theorem run_device (t : Tracked σ) (ops : List Operation) : (t.run ops).device = t.device.run ops := by
  induction ops generalizing t with
  | nil => rfl
  | cons op ops ih => exact ih (t.perform op)

end Tracked

namespace Device

variable {σ ε : Type} [Storage σ ε] {d : Device σ} {op : Operation} {ops : List Operation}

/-- a device tracked through a run -/
def track (d : Device σ) (ops : List Operation) : Tracked σ := (⟨d, {}⟩ : Tracked σ).run ops

theorem track_append_singleton (d : Device σ) (ops : List Operation) (op : Operation) :
    d.track (ops ++ [op]) = (d.track ops).perform op := Tracked.run_append_singleton _ ops op

theorem track_device (d : Device σ) (ops : List Operation) : (d.track ops).device = d.run ops :=
  Tracked.run_device _ ops

/-- the slots in use after one more operation -/
theorem track_used_append_singleton (d : Device σ) (ops : List Operation) (op : Operation) :
    (d.track (ops ++ [op])).used = ((d.run ops).handover op).over (d.track ops).used := by
  rw [track_append_singleton, ← track_device]
  rfl

section Moments

variable {α : Type} {f : Call → Option α} {inSlot : Settings → Nat → Option α} {done : List Operation} {a : α}

/-- the last call of a kind in a run: the last of the operations done so far makes this one and no other, and no
operation behind it makes another -/
structure MadeLast (f : Call → Option α) (a : α) (d : Device σ) (done ops : List Operation) : Prop where
  before : done <+: ops
  made : ∃ front op, done = front ++ [op] ∧ Adds (fun calls => calls.filterMap f = [a]) (d.run front) (d.run done)
  silent : Adds (fun calls => calls.filterMap f = []) (d.run done) (d.run ops)

/-- an operation that makes such a call ends the run with it -/
theorem madeLast_append_singleton
    (h : Adds (fun calls => calls.filterMap f = [a]) (d.run ops) (d.run (ops ++ [op]))) :
    MadeLast f a d (ops ++ [op]) (ops ++ [op]) :=
  ⟨List.prefix_rfl, ⟨ops, op, rfl, h⟩, Adds.none rfl rfl⟩

/-- an operation that makes none leaves the last one as it was -/
theorem MadeLast.append_singleton (h : MadeLast f a d done ops)
    (hop : Adds (fun calls => calls.filterMap f = []) (d.run ops) (d.run (ops ++ [op]))) :
    MadeLast f a d done (ops ++ [op]) where
  before := h.before.trans (List.prefix_append ops [op])
  made := h.made
  silent := h.silent.trans hop fun front back hfront hback => by rw [List.filterMap_append, hfront, hback]; rfl

/-- the last call of a kind handed over what was in a slot then; without a slot there is no such call -/
structure LastFrom (f : Call → Option α) (inSlot : Settings → Nat → Option α) (d : Device σ) (ops : List Operation)
    (slot? : Option Nat) (calls : List Call) : Prop where
  never : slot? = none → calls.filterMap f = []
  last : ∀ slot, slot? = some slot → ∃ done a, MadeLast f a d done ops ∧
    inSlot (d.run done).settings slot = some a ∧ (calls.filterMap f).getLast? = some a

/-- one more operation hands over from a slot, or leaves the last call as it was -/
theorem LastFrom.append_singleton {new old : Option Nat} {calls calls' : List Call}
    (h : LastFrom f inSlot d ops old calls) (hcalls : (d.run (ops ++ [op])).calls = (d.run ops).calls ++ calls')
    (hslot : ∀ slot, new = some slot → ∃ a, inSlot (d.run (ops ++ [op])).settings slot = some a)
    (hmade : calls'.filterMap f = (new.bind (inSlot (d.run (ops ++ [op])).settings)).toList) :
    LastFrom f inSlot d (ops ++ [op]) (new.or old) (calls ++ calls') := by
  cases new with
  | none =>
    have hsilent : calls'.filterMap f = [] := hmade
    have hsame : (calls ++ calls').filterMap f = calls.filterMap f := by
      rw [List.filterMap_append, hsilent, List.append_nil]
    rw [Option.none_or]
    refine ⟨fun hnone => ?_, fun slot hold => ?_⟩
    · rw [hsame, h.never hnone]
    · obtain ⟨done, a, hlast, hin, hget⟩ := h.last slot hold
      refine ⟨done, a, hlast.append_singleton ⟨calls', hcalls, hsilent⟩, hin, ?_⟩
      rw [hsame, hget]
  | some slot =>
    obtain ⟨a, ha⟩ := hslot slot rfl
    have hsingle : calls'.filterMap f = [a] := by
      rw [hmade, Option.bind_some, ha]
      rfl
    rw [Option.some_or]
    refine ⟨fun hnone => absurd hnone (Option.some_ne_none slot), fun found hfound => ?_⟩
    obtain rfl : slot = found := Option.some.inj hfound
    refine ⟨ops ++ [op], a, madeLast_append_singleton ⟨calls', hcalls, hsingle⟩, ha, ?_⟩
    rw [List.filterMap_append, hsingle, List.getLast?_append]
    rfl

end Moments

/-- the profiles that the calls of a run handed over last: each was in its slot when it was handed over, and none of its
kind has been handed over since -/
structure LastHandedOver (d : Device σ) (ops : List Operation) (slots : Slots) (calls : List Call) : Prop where
  controlLaw : LastFrom Call.controlLaw? (fun s slot => s.pidProfiles[slot]?) d ops slots.pid calls
  stickRates : LastFrom Call.stickRates? (fun s slot => s.rateProfiles[slot]?.map fun profile => (slot, profile)) d ops
    slots.rate calls

/-- a run of no operations hands nothing over -/
theorem lastHandedOver_nil (d : Device σ) : LastHandedOver d [] {} [] :=
  ⟨⟨fun _ => rfl, fun _ h => nomatch h⟩, ⟨fun _ => rfl, fun _ h => nomatch h⟩⟩

/-- one more operation hands over what its handover says, and leaves the rest as it was handed over before -/
theorem LastHandedOver.append_singleton {slots : Slots} {calls calls' : List Call} (h : LastHandedOver d ops slots calls)
    (hcalls : (d.run (ops ++ [op])).calls = (d.run ops).calls ++ calls')
    (hop : HandsOver ((d.run ops).handover op) (d.run (ops ++ [op])).settings calls') :
    LastHandedOver d (ops ++ [op]) (((d.run ops).handover op).over slots) (calls ++ calls') where
  controlLaw := by
    refine h.controlLaw.append_singleton hcalls (fun slot hslot => ?_) hop.controlLaw
    exact ⟨_, Vector.getElem?_eq_getElem (hop.pid_lt slot hslot)⟩
  stickRates := by
    refine h.stickRates.append_singleton hcalls (fun slot hslot => ?_) hop.stickRates
    rw [Vector.getElem?_eq_getElem (hop.rate_lt slot hslot)]
    exact ⟨_, rfl⟩

/-- **What is used was handed over.** The calls of a run end the use of any other profiles. -/
theorem track_used (d : Device σ) (ops : List Operation) :
    Adds (LastHandedOver d ops (d.track ops).used) d (d.run ops) := by
  induction ops using List.reverseRecOn with
  | nil => exact Adds.none (lastHandedOver_nil d) rfl
  | append_singleton ops op ih =>
    obtain ⟨calls, hcalls, hlast⟩ := ih
    have hstep := handover_exact (d.run ops) op
    rw [← run_append_singleton] at hstep
    obtain ⟨calls', hcalls', hhands⟩ := hstep
    rw [track_used_append_singleton]
    exact ⟨calls ++ calls', by rw [hcalls', hcalls, List.append_assoc], hlast.append_singleton hcalls' hhands⟩

/-! ## Active and used slots -/

theorem slots_selectPid (d : Device σ) (index : UInt8) :
    (d.selectPid index).slots = (d.handover (.selectPid index)).over d.slots := by
  rw [handover_selectPid, selectPid_eq]
  split_ifs <;> rfl

theorem slots_selectRate (d : Device σ) (index : UInt8) :
    (d.selectRate index).slots = (d.handover (.selectRate index)).over d.slots := by
  rw [handover_selectRate, selectRate_eq]
  split_ifs <;> rfl

theorem slots_resetPid (d : Device σ) (slot : Nat) : (d.resetPid slot).2.slots = d.slots := by
  rw [resetPid_frame]
  rfl

theorem slots_copyPid (d : Device σ) (src dst : Nat) : (d.copyPid src dst).2.slots = d.slots := by
  rw [copyPid_frame]
  rfl

/-- where it is no reset, an operation hands over what it makes active, and leaves the other active slots -/
theorem Aligned.slots_perform (h : d.Aligned) (hedits : op.edits = false) (hresets : op.resets = false) :
    (d.perform op).slots = (d.handover op).over d.slots := by
  cases op with
  | load =>
    show d.load.2.slots = d.bootSettings.system.slots
    rw [(aligned_load d).slots_eq, settings_load]
  | save =>
    show d.save.slots = d.write.2.bootSettings.system.slots
    rw [(aligned_save d).slots_eq, (save_frame d).1]
  | writeUnmodified => exact h.slots_writeUnmodified
  | write => exact h.configured.slots_writeUnmodified
  | writeWithFeatures fs =>
    have hfeatures : Aligned { d with settings.features := fs } := ⟨h.indexed, h.pid, h.rate⟩
    exact hfeatures.configured.slots_writeUnmodified
  | repairSettings => exact h.slots_repairSettings
  | selectPid index => exact slots_selectPid d index
  | autoSelect cells =>
    rcases autoSelect_cases d cells with ⟨hperform, hnone⟩ | ⟨index, hperform, hsome⟩
    · rw [hperform, hnone]
      rfl
    · rw [hperform, hsome]
      exact slots_selectPid d index
  | selectRate index => exact slots_selectRate d index
  | resetPid slot => exact slots_resetPid d slot
  | copyPid src dst => exact slots_copyPid d src dst
  | markDirty | requireReboot | sense sensor => rfl
  | reset custom => exact Bool.noConfusion hresets
  | ensureIntact => exact Bool.noConfusion hresets
  | edit s => exact Bool.noConfusion hedits

/-- a reset hands nothing over -/
theorem handover_of_resets (d : Device σ) (h : op.resets = true) : d.handover op = {} := by
  cases op <;> first | rfl | exact Bool.noConfusion h

/-- after a run the firmware uses the active profiles -/
structure InUse (d : Device σ) (ops : List Operation) : Prop where
  /-- the slots whose profiles were handed over last are the active ones -/
  slots : (d.track ops).used = (d.run ops).slots
  /-- and the calls hold the profiles from these slots -/
  handedOver : Adds (LastHandedOver d ops (d.run ops).slots) d (d.run ops)

theorem inUse_iff : d.InUse ops ↔ (d.track ops).used = (d.run ops).slots := by
  refine ⟨InUse.slots, fun h => ⟨h, ?_⟩⟩
  rw [← h]
  exact track_used d ops

/-- right after a load the firmware uses the active profiles -/
theorem inUse_load (d : Device σ) : d.InUse [.load] := by
  rw [inUse_iff, run_load, (aligned_load d).slots_eq, settings_load]
  rfl

/-- **Resets break the use of the active profiles, and nothing else does.** In a run that starts with a load and edits no
settings, the firmware uses the active profiles after each operation exactly if each reset leaves the active slots as
they are. -/
theorem run_inUse_iff (d : Device σ) (hops : ∀ op ∈ ops, op.edits = false) :
    (∀ done, done <+: ops → d.InUse (.load :: done)) ↔
      ∀ done op, done ++ [op] <+: ops → op.resets = true →
        (d.run (.load :: (done ++ [op]))).slots = (d.run (.load :: done)).slots := by
  constructor
  · intro h done op hdone hresets
    have hbefore := inUse_iff.1 (h done ((List.prefix_append done [op]).trans hdone))
    have hafter := inUse_iff.1 (h (done ++ [op]) hdone)
    rw [← List.cons_append, track_used_append_singleton, handover_of_resets _ hresets] at hafter
    exact hafter.symm.trans hbefore
  · intro h done hdone
    induction done using List.reverseRecOn with
    | nil => exact inUse_load d
    | append_singleton done op ih =>
      have hshorter : done <+: ops := (List.prefix_append done [op]).trans hdone
      have hused := inUse_iff.1 (ih hshorter)
      have haligned := aligned_run d fun op' hop' => hops op' (hshorter.subset hop')
      rw [inUse_iff, ← List.cons_append, track_used_append_singleton, hused]
      by_cases hresets : op.resets = true
      · rw [handover_of_resets _ hresets]
        exact (h done op hdone hresets).symm
      · have hedits : op.edits = false := hops op (hdone.subset (List.mem_append_right done List.mem_cons_self))
        rw [run_append_singleton]
        exact (haligned.slots_perform hedits (Bool.not_eq_true _ ▸ hresets)).symm

/-! ## A reset after selections -/

/-- a reset makes the first profiles active, unless the target says otherwise -/
theorem slots_reset (h : d.target.configure = none) : (d.perform (.reset false)).slots = ⟨some 0, some 0⟩ := by
  set fresh := d.settings.resetAll d.target with hfresh
  have hsystem : fresh.system = { boardIdentifier := d.target.boardIdentifier } := by
    rw [hfresh, Settings.resetAll, h]
    exact Settings.part_resetGroups .system d.target d.settings
  have hindexed : fresh.system.Indexed := by
    rw [hsystem]
    exact ⟨show 0 < rateProfileCount by decide, show 0 < pidProfileCount by decide⟩
  have hwritten : (d.setSettings fresh).writeUnmodified.2.settings.system = fresh.system := by
    rw [(honest_writeUnmodified (d.setSettings fresh)).settings]
    exact Repair.system_repair_of_indexed d.target d.sensor hindexed
  show (d.setSettings fresh).writeUnmodified.2.slots = _
  rw [(aligned_writeUnmodified _).slots_eq, hwritten, hsystem]
  rfl

/-- on the host profiles are selected, written and saved, and they stay in use -/
theorem inUse_selected :
    let d := Device.start .host ({} : Memory) .bmi160
    let ops : List Operation := [.selectPid 2, .selectRate 3, .write, .save]
    (∀ op ∈ ops, op.edits = false) ∧ ∀ done, done <+: ops → d.InUse (.load :: done) := by
  intro d ops
  have hedits : ∀ op ∈ ops, op.edits = false := by decide
  have hresets : ∀ op ∈ ops, op.resets = false := by decide
  refine ⟨hedits, (run_inUse_iff d hedits).2 fun done op hdone hreset => ?_⟩
  rw [hresets op (hdone.subset (List.mem_append_right done List.mem_cons_self))] at hreset
  exact Bool.noConfusion hreset

/-- **A reset leaves the firmware behind.** After a reset on the host the first profiles are active, and the firmware
uses those that were selected before. -/
theorem reset_not_handedOver :
    let d := Device.start .host ({} : Memory) .bmi160
    let ops : List Operation := [.selectPid 2, .selectRate 3, .reset false]
    (∀ op ∈ ops, op.edits = false) ∧ (d.track (.load :: ops)).used = ⟨some 2, some 3⟩ ∧
      (d.run (.load :: ops)).slots = ⟨some 0, some 0⟩ ∧ ¬ d.InUse (.load :: ops) ∧
      ∃ calls profile, (d.run (.load :: ops)).calls = d.calls ++ calls ∧
        (calls.filterMap Call.stickRates?).getLast? = some (3, profile) := by
  intro d ops
  -- one operation after the other, from the end
  have hops : (.load :: ops : List Operation) = [.load] ++ [.selectPid 2] ++ [.selectRate 3] ++ [.reset false] := rfl
  have hused : (d.track (.load :: ops)).used = ⟨some 2, some 3⟩ := by
    rw [hops, track_used_append_singleton, track_used_append_singleton, track_used_append_singleton,
      handover_of_resets _ rfl, handover_selectRate, handover_selectPid, if_pos (by decide), if_pos (by decide)]
    rfl
  have hslots : (d.run (.load :: ops)).slots = ⟨some 0, some 0⟩ := by
    have hhook : (d.run [.load, .selectPid 2, .selectRate 3]).target.configure = none := by
      rw [target_run]
      rfl
    have hlast : (.load :: ops : List Operation) = [.load, .selectPid 2, .selectRate 3] ++ [.reset false] := rfl
    rw [hlast, run_append_singleton]
    exact slots_reset hhook
  refine ⟨by decide, hused, hslots, ?_, ?_⟩
  · rw [inUse_iff, hused, hslots]
    decide
  · obtain ⟨calls, hcalls, hlast⟩ := track_used d (.load :: ops)
    rw [hused] at hlast
    obtain ⟨done, handed, -, hin, hget⟩ := hlast.stickRates.last 3 rfl
    obtain ⟨profile, -, rfl⟩ := Option.map_eq_some_iff.1 hin
    exact ⟨calls, profile, hcalls, hget⟩

end Device
end FlightStore
