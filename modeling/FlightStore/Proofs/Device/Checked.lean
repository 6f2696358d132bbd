/-
Loading with every step checked.

In `load?` a step that goes past an end, divides by zero or overflows has no result. It reads the image and repairs the
settings in this way, and looks up the two profiles that are handed over; each of them may be missing as long as there is
a first slot. `load?_eq` proves that the load has a result for every device, whatever its medium answers, and that the
result is that of `load`.
-/
import FlightStore.Device.Lifecycle
import FlightStore.Proofs.Image.Checked
import FlightStore.Proofs.Repair.Checked

namespace FlightStore

/-- what is in a slot, or else in the first, which there has to be -/
def slotOrFirst? {α : Type} {n : Nat} (slots : Vector α n) (slot : Nat) : Option α := do
  let first ← slots[0]?
  some (slots[slot]?.getD first)

theorem slotOrFirst?_eq {α : Type} {n : Nat} (slots : Vector α n) (hn : 0 < n) (slot : Nat) :
    slotOrFirst? slots slot = some (slots[slot]?.getD slots[0]) := by
  rw [slotOrFirst?, Vector.getElem?_eq_getElem hn]
  rfl

/-- hands settings over to the running firmware, with the profiles looked up -/
def activation? (t : Target) (s : Settings) : Option (List Call) := do
  let rate ← slotOrFirst? s.rateProfiles s.system.rateProfileIndex.toNat
  let pid ← slotOrFirst? s.pidProfiles s.system.pidProfileIndex.toNat
  some (activationWith t s rate pid)

theorem activation?_eq (t : Target) (s : Settings) : activation? t s = some (activation t s) := by
  rw [activation?, slotOrFirst?_eq s.rateProfiles (by decide), slotOrFirst?_eq s.pidProfiles (by decide)]
  rfl

variable {σ ε : Type} [Storage σ ε]

/-- the settings that are stored, over those in memory -/
def Storage.load? (t : Target) (s : Settings) (m : σ) : Option (Outcome σ (Except (StorageError ε) Settings)) :=
  match Storage.read m with
  | (.error e, m) => some ⟨.error (.medium e), m, [.read]⟩
  | (.ok i, m) => do
    let answer ← i.decode? t s
    some ⟨answer.mapError .image, m, [.read]⟩

theorem Storage.load?_eq (t : Target) (s : Settings) (m : σ) : Storage.load? t s m = some (Storage.load t s m) := by
  unfold Storage.load? Storage.load
  rcases Storage.read m with ⟨e | i, m'⟩
  · rfl
  · dsimp only
    rw [Image.decode?_eq]
    rfl

namespace Device

/-- loads, repairs and activates the stored settings -/
def load? (d : Device σ) : Option (Bool × Device σ) := do
  let loaded ← Storage.load? d.target d.settings d.storage
  let pass ← Repair.repair? d.target d.sensor (loaded.result.toOption.getD d.settings)
  let handedOver ← activation? d.target pass.settings
  let calls := suspended (loaded.accesses.map .storage ++ handedOver)
  some (loaded.result.toBool, ({ d with settings := pass.settings, storage := loaded.medium }.trace calls).reload)

/-- **A load comes to its end.** Every step of a load has a result, for every device and whatever its medium answers. -/
theorem load?_eq (d : Device σ) : d.load? = some d.load := by
  rw [load?, Storage.load?_eq, Option.bind_eq_bind, Option.bind_some, Repair.repair?_eq, Option.bind_eq_bind,
    Option.bind_some, activation?_eq]
  rfl

end Device
end FlightStore
