/-
What a load finds, and what it puts in the place of groups that are not stored.

Settings that are stored are loaded as they are, over any others (`load_of_stored`).

A missing group is reset by itself, while the defaults of a target are a reset of all groups followed by the target's
hook. A load never calls the hook. So a missing group gets the default of the target exactly if the hook leaves that
group as a reset gives it (`load_missing`), which it does for every group if there is none.

Witness `twelvePoles_missing`: the hook of a target sets the number of poles of its motors. After a load from an image
without records the motors have the number that they have on any target.
-/
import FlightStore.Proofs.Image.RoundTrip
import FlightStore.Storage.Memory

namespace FlightStore

/-- the hook, if there is one, leaves a group as a reset gives it -/
def Target.HookKeeps (t : Target) (g : GroupId) : Prop :=
  ∀ hook, t.configure = some hook → g.part.get (hook (Settings.resetGroups t {})) = g.part.initial t

/-- the default of a target for a group is the value of a reset exactly if the hook keeps it -/
theorem Target.hookKeeps_iff (t : Target) (g : GroupId) :
    t.HookKeeps g ↔ g.part.get (Settings.defaults t) = g.part.initial t := by
  unfold HookKeeps Settings.defaults Settings.resetAll
  rcases t.configure with _ | hook
  · simp [Settings.part_resetGroups]
  · simp

namespace Storage

variable {σ ε : Type} [Storage σ ε]

/-- a load answers what the image that was read decodes to -/
theorem load_result {m : σ} {i : Image} (hread : (Storage.read m).1 = .ok i) (t : Target) (prior : Settings) :
    (Storage.load t prior m).result = (i.decode t prior).mapError .image := by
  rw [load]
  rcases hm : Storage.read m with ⟨answer, m'⟩
  rw [hm] at hread
  obtain rfl : answer = .ok i := hread
  rfl

/-- the next read answers an image of the records of these settings -/
def Stored (s : Settings) (m : σ) : Prop := ∃ i : Image, (Storage.read m).1 = .ok i ∧ i.Holds (Image.recordsOf s)

theorem ofSettings_eq (s : Settings) : ∃ i, Image.ofSettings s = .ok i ∧ i.Holds (Image.recordsOf s) := by
  obtain ⟨i, hi, hholds⟩ := Image.encode_holds (Image.filled 0) s
  refine ⟨i, ?_, hholds⟩
  rw [Image.ofSettings, hi]
  rfl

/-- stored settings are loaded over any others and for any target -/
theorem load_of_stored {s : Settings} {m : σ} (h : Stored s m) (t : Target) (prior : Settings) :
    (Storage.load t prior m).result = .ok s := by
  obtain ⟨i, hread, hholds⟩ := h
  rw [load_result hread, hholds.decode_eq t prior]
  rfl

/-- a load from an image without a fault gives a group that has no usable record the value of a reset -/
theorem part_load_of_missing (t : Target) (prior : Settings) {m : σ} {i : Image} {g : GroupId}
    (hread : (Storage.read m).1 = .ok i) (hcheck : i.check = .ok ())
    (hmissing : ∀ rs, i.records? = some rs → ∀ r ∈ rs, r.usable? g = none) :
    ∃ s, (Storage.load t prior m).result = .ok s ∧ g.part.get s = g.part.initial t := by
  obtain ⟨rs, hrecords⟩ := Image.records_of_check hcheck
  refine ⟨Image.restore t rs prior, ?_, ?_⟩
  · rw [load_result hread, Image.decode, hcheck, hrecords]
    rfl
  · have hnone : Image.lastUsable? g rs = none := by
      rw [Image.lastUsable?, List.filterMap_eq_nil_iff.2 (hmissing rs hrecords)]
      rfl
    rw [Image.part_restore, hnone]
    rfl

/-- **Missing groups.** For every target, image without a fault and settings in memory, a group without a usable record
has after a load the value of a reset. This is the default of the target exactly if the target's hook keeps it. -/
theorem load_missing (t : Target) (prior : Settings) {m : σ} {i : Image} {g : GroupId}
    (hread : (Storage.read m).1 = .ok i) (hcheck : i.check = .ok ())
    (hmissing : ∀ rs, i.records? = some rs → ∀ r ∈ rs, r.usable? g = none) :
    ∃ s, (Storage.load t prior m).result = .ok s ∧ g.part.get s = g.part.initial t ∧
      (g.part.get s = g.part.get (Settings.defaults t) ↔ t.HookKeeps g) := by
  obtain ⟨s, hload, hpart⟩ := part_load_of_missing t prior hread hcheck hmissing
  refine ⟨s, hload, hpart, ?_⟩
  rw [hpart, t.hookKeeps_iff g]
  exact eq_comm

/-- a target on the host that drives motors with twelve poles -/
def twelvePoles : Target :=
  { Target.host with configure := some fun s => { s with motor := { s.motor with poleCount := 12 } } }

/-- an image without records -/
def noRecords : Image := Image.ofRecords [] (by decide)

theorem holds_noRecords : noRecords.Holds [] := Image.holds_ofRecords (fun _ hr => absurd hr List.not_mem_nil) _

theorem missing_noRecords (g : GroupId) (rs : List Image.Record) (hrs : noRecords.records? = some rs) :
    ∀ r ∈ rs, r.usable? g = none := by
  intro r hr
  rw [holds_noRecords.records_eq] at hrs
  cases hrs
  exact absurd hr List.not_mem_nil

theorem load_missing_twelvePoles :
    ((Storage.read (⟨noRecords⟩ : Memory)).1 = .ok noRecords ∧ noRecords.check = .ok () ∧
        ∀ rs, noRecords.records? = some rs → ∀ r ∈ rs, r.usable? .motor = none) ∧
      ∃ s, (Storage.load twelvePoles (Settings.defaults twelvePoles) (⟨noRecords⟩ : Memory)).result = .ok s ∧
        s.motor = {} ∧ (s.motor = (Settings.defaults twelvePoles).motor ↔ twelvePoles.HookKeeps .motor) := by
  have hread : (Storage.read (⟨noRecords⟩ : Memory)).1 = .ok noRecords := rfl
  refine ⟨⟨hread, holds_noRecords.check_eq, missing_noRecords .motor⟩, ?_⟩
  exact load_missing (g := .motor) twelvePoles (Settings.defaults twelvePoles) hread holds_noRecords.check_eq
    (missing_noRecords .motor)

/-- **A load forgets the hook.** After a load from an image without records, the motors of a target with twelve poles
do not have the default of this target. -/
theorem twelvePoles_missing :
    noRecords.check = .ok () ∧ noRecords.records? = some [] ∧
      ∃ s, (Storage.load twelvePoles (Settings.defaults twelvePoles) (⟨noRecords⟩ : Memory)).result = .ok s ∧
        s.motor.poleCount = 14 ∧ (Settings.defaults twelvePoles).motor.poleCount = 12 := by
  refine ⟨holds_noRecords.check_eq, holds_noRecords.records_eq, ?_⟩
  obtain ⟨s, hload, hmotor⟩ := part_load_of_missing (g := .motor) twelvePoles (Settings.defaults twelvePoles)
    (m := (⟨noRecords⟩ : Memory)) rfl holds_noRecords.check_eq (missing_noRecords .motor)
  have hmotor : s.motor = {} := hmotor
  exact ⟨s, hload, by rw [hmotor], rfl⟩

end Storage
end FlightStore
