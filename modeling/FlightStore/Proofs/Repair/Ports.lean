/-
Valid port maps and what repair does to them.

Repair replaces an invalid map by the standard one (`valid_fixPorts`). The only other change to ports is that GPS is
taken off all of them. GPS shares a port with nothing, so a valid map stays valid (`valid_remove_gps`).
-/
import FlightStore.Proofs.Repair.Settled
import FlightStore.Repair.Pass

namespace FlightStore

namespace SerialPort

/-- a port without a function that cannot share keeps a combination that can -/
theorem Shares.sdiff_gps {p : SerialPort} (h : p.Shares) : SerialPort.Shares ⟨p.name, p.functions \ .only .gps⟩ := by
  have hkeep : SerialFunction.gps ∉ p.functions → p.functions \ .only .gps = p.functions := fun hg =>
    FlagSet.sdiff_eq_self fun hm => hg (FlagSet.meets_only.1 hm)
  rcases h with hcount | hshare
  · exact Or.inl (Nat.le_trans (FlagSet.count_le_of_subset (FlagSet.sdiff_subset _ _)) hcount)
  · have hg : SerialFunction.gps ∉ p.functions := by
      intro hg
      split_ifs at hshare with hmsp
      · have : SerialFunction.gps ∈ SerialFunctions.shareableWithMsp :=
          FlagSet.subset_iff.1 hshare _ (FlagSet.mem_erase.2 ⟨hg, by decide⟩)
        exact absurd this (by decide)
      · have : SerialFunction.gps ∈ SerialFunctions.shareableWithReceiver :=
          FlagSet.subset_iff.1 hshare.2 _ (FlagSet.mem_erase.2 ⟨hg, by decide⟩)
        exact absurd this (by decide)
    rw [hkeep hg]
    exact Or.inr hshare

end SerialPort

namespace SerialPorts

theorem countOf_remove (p : SerialPorts) {fs : SerialFunctions} {f : SerialFunction} (hf : f ∉ fs) :
    (p.remove fs).countOf f = p.countOf f := by
  simp [countOf, remove, BoundedList.map, List.countP_map, Function.comp_def, FlagSet.mem_sdiff, hf]

theorem valid_remove_gps {p : SerialPorts} (h : p.Valid) : (p.remove (.only .gps)).Valid := by
  obtain ⟨hnames, hshare, hmsp⟩ := h
  refine ⟨?_, fun q hq => ?_, ?_⟩
  · simpa [remove, BoundedList.map, Function.comp_def] using hnames
  · obtain ⟨p', hp', rfl⟩ := List.mem_map.1 hq
    exact (hshare p' hp').sdiff_gps
  · rw [countOf_remove p (by decide), countOf_remove p (by decide)]
    exact hmsp

theorem not_has_remove (p : SerialPorts) (fs : SerialFunctions) : ¬ (p.remove fs).Has fs := by
  rintro ⟨q, hq, hm⟩
  obtain ⟨p', _, rfl⟩ := List.mem_map.1 hq
  exact FlagSet.not_meets_sdiff _ _ hm

theorem remove_eq_self {p : SerialPorts} {fs : SerialFunctions} (h : ¬ p.Has fs) : p.remove fs = p := by
  have hport : ∀ q ∈ p.ports.items, ({ q with functions := q.functions \ fs } : SerialPort) = id q := fun q hq => by
    rw [FlagSet.sdiff_eq_self fun hm => h ⟨q, hq, hm⟩, id]
  have hports : (p.remove fs).ports = p.ports :=
    BoundedList.ext ((List.map_congr_left hport).trans (List.map_id _))
  exact congrArg (fun ports => { p with ports }) hports

end SerialPorts

namespace Repair

theorem fixPorts_eq_pure {p : SerialPorts} (h : p.Valid) : fixPorts p = pure p := if_pos h

theorem valid_fixPorts (p : SerialPorts) : (fixPorts p).value.Valid := by
  unfold fixPorts
  split_ifs with h
  · exact h
  · decide

end Repair
end FlightStore
