/-
Filters after repair.

Clamping leaves every frequency of a lowpass or notch at or under `filterMax` (`Gyro.Bounded`, `PidProfile.Bounded`).
Ordering leaves every notch off or with its cutoff below its centre, every dynamic lowpass with bounds in order and every
reduced D gain off or below the D gain (`Gyro.Ordered`, `PidProfile.Ordered`). Ordering only writes zeros, so the
frequencies stay under the limit.
-/
import FlightStore.Proofs.Repair.Settled
import FlightStore.Repair.Filters

namespace FlightStore

/-- the frequencies of the gyro filters that have a limit are within it -/
structure Gyro.Bounded (g : Gyro) : Prop where
  lowpass : g.lowpass ≤ Repair.filterMax
  lowpass2 : g.lowpass2 ≤ Repair.filterMax
  notch1 : g.notch1 ≤ Repair.filterMax
  notchCutoff1 : g.notchCutoff1 ≤ Repair.filterMax
  notch2 : g.notch2 ≤ Repair.filterMax
  notchCutoff2 : g.notchCutoff2 ≤ Repair.filterMax

/-- the frequencies of a PID profile that have a limit are within it -/
structure PidProfile.Bounded (p : PidProfile) : Prop where
  lowpass : p.lowpass ≤ Repair.filterMax
  lowpass2 : p.lowpass2 ≤ Repair.filterMax
  notch : p.notch ≤ Repair.filterMax
  notchCutoff : p.notchCutoff ≤ Repair.filterMax

namespace Repair

/-- a notch is off or has its cutoff below its centre -/
def NotchOrdered (centre cutoff : UInt16) : Prop := centre = 0 ∨ cutoff < centre

/-- a reduced D gain is off or below the D gain -/
def DMinOrdered (dMin d : UInt8) : Prop := dMin = 0 ∨ dMin < d

end Repair

/-- what belongs together among the gyro filters is in order -/
structure Gyro.Ordered (g : Gyro) : Prop where
  notch1 : Repair.NotchOrdered g.notch1 g.notchCutoff1
  notch2 : Repair.NotchOrdered g.notch2 g.notchCutoff2
  dynamic : g.dynamicMin ≤ g.dynamicMax

/-- what belongs together among the filters and gains of a profile is in order -/
structure PidProfile.Ordered (p : PidProfile) : Prop where
  notch : Repair.NotchOrdered p.notch p.notchCutoff
  dynamic : p.dynamicMin ≤ p.dynamicMax
  roll : Repair.DMinOrdered p.dMin.roll p.gains.roll.d
  pitch : Repair.DMinOrdered p.dMin.pitch p.gains.pitch.d
  yaw : Repair.DMinOrdered p.dMin.yaw p.gains.yaw.d

namespace Repair

/-! ## Limits -/

theorem limit_eq_pure {reset f : UInt16} (h : f ≤ filterMax) : limit reset f = pure f :=
  Fixed.assignIf_neg (UInt16.not_lt.2 h)

theorem limit_le {reset : UInt16} (hreset : reset ≤ filterMax) (f : UInt16) : (limit reset f).value ≤ filterMax := by
  rw [limit, Fixed.value_assignIf]
  split_ifs with h
  · exact hreset
  · exact UInt16.not_lt.1 h

theorem clampGyro_eq_pure {g : Gyro} (h : g.Bounded) : clampGyro g = pure g := by
  simp only [clampGyro, limit_eq_pure h.lowpass, limit_eq_pure h.lowpass2, limit_eq_pure h.notch1,
    limit_eq_pure h.notchCutoff1, limit_eq_pure h.notch2, limit_eq_pure h.notchCutoff2, pure_bind]

theorem clampProfile_eq_pure {p : PidProfile} (h : p.Bounded) : clampProfile p = pure p := by
  simp only [clampProfile, limit_eq_pure h.lowpass, limit_eq_pure h.lowpass2, limit_eq_pure h.notch,
    limit_eq_pure h.notchCutoff, pure_bind]

theorem bounded_clampGyro (g : Gyro) : (clampGyro g).value.Bounded := by
  have hmax : filterMax ≤ filterMax := UInt16.le_refl _
  have hzero : 0 ≤ filterMax := by decide
  exact ⟨limit_le hmax _, limit_le hmax _, limit_le hmax _, limit_le hzero _, limit_le hmax _, limit_le hzero _⟩

theorem bounded_clampProfile (p : PidProfile) : (clampProfile p).value.Bounded := by
  have hmax : filterMax ≤ filterMax := UInt16.le_refl _
  have hzero : 0 ≤ filterMax := by decide
  exact ⟨limit_le hmax _, limit_le hmax _, limit_le hmax _, limit_le hzero _⟩

/-! ## Order -/

theorem orderNotch_eq_pure {centre cutoff : UInt16} (h : NotchOrdered centre cutoff) :
    orderNotch centre cutoff = pure centre :=
  Fixed.assignIf_eq_pure fun hle => h.elim id fun hlt => absurd hle (UInt16.not_le.2 hlt)

theorem ordered_orderNotch (centre cutoff : UInt16) : NotchOrdered (orderNotch centre cutoff).value cutoff := by
  rw [orderNotch, Fixed.value_assignIf]
  split_ifs with h
  · exact Or.inl rfl
  · exact Or.inr (UInt16.not_le.1 h)

theorem orderDynamic_eq_pure {lo hi : UInt16} (h : lo ≤ hi) : orderDynamic lo hi = pure lo :=
  Fixed.assignIf_neg (UInt16.not_lt.2 h)

theorem ordered_orderDynamic (lo hi : UInt16) : (orderDynamic lo hi).value ≤ hi := by
  rw [orderDynamic, Fixed.value_assignIf]
  split_ifs with h
  · exact UInt16.zero_le
  · exact UInt16.not_lt.1 h

theorem orderDMin_eq_pure {dMin d : UInt8} (h : DMinOrdered dMin d) : orderDMin dMin d = pure dMin :=
  Fixed.assignIf_eq_pure fun hle => h.elim id fun hlt => absurd hle (UInt8.not_le.2 hlt)

theorem ordered_orderDMin (dMin d : UInt8) : DMinOrdered (orderDMin dMin d).value d := by
  rw [orderDMin, Fixed.value_assignIf]
  split_ifs with h
  · exact Or.inl rfl
  · exact Or.inr (UInt8.not_le.1 h)

theorem orderGyro_eq_pure {g : Gyro} (h : g.Ordered) : orderGyro g = pure g := by
  simp only [orderGyro, orderNotch_eq_pure h.notch1, orderNotch_eq_pure h.notch2, orderDynamic_eq_pure h.dynamic,
    pure_bind]

theorem orderProfile_eq_pure {p : PidProfile} (h : p.Ordered) : orderProfile p = pure p := by
  simp only [orderProfile, orderNotch_eq_pure h.notch, orderDynamic_eq_pure h.dynamic, orderDMin_eq_pure h.roll,
    orderDMin_eq_pure h.pitch, orderDMin_eq_pure h.yaw, pure_bind]

theorem ordered_orderGyro (g : Gyro) : (orderGyro g).value.Ordered :=
  ⟨ordered_orderNotch _ _, ordered_orderNotch _ _, ordered_orderDynamic _ _⟩

theorem ordered_orderProfile (p : PidProfile) : (orderProfile p).value.Ordered :=
  ⟨ordered_orderNotch _ _, ordered_orderDynamic _ _, ordered_orderDMin _ _, ordered_orderDMin _ _,
    ordered_orderDMin _ _⟩

/-- what is out of order becomes zero, which no limit forbids -/
theorem orderNotch_le {centre : UInt16} (h : centre ≤ filterMax) (cutoff : UInt16) :
    (orderNotch centre cutoff).value ≤ filterMax := by
  rw [orderNotch, Fixed.value_assignIf]
  split_ifs
  · decide
  · exact h

theorem bounded_orderGyro {g : Gyro} (h : g.Bounded) : (orderGyro g).value.Bounded :=
  ⟨h.lowpass, h.lowpass2, orderNotch_le h.notch1 _, h.notchCutoff1, orderNotch_le h.notch2 _, h.notchCutoff2⟩

theorem bounded_orderProfile {p : PidProfile} (h : p.Bounded) : (orderProfile p).value.Bounded :=
  ⟨h.lowpass, h.lowpass2, orderNotch_le h.notch _, h.notchCutoff⟩

/-! ## Both rules on the settings -/

/-- every filter frequency with a limit is within it -/
structure FiltersBounded (s : Settings) : Prop where
  gyro : s.gyro.Bounded
  profiles : ∀ p ∈ s.pidProfiles, p.Bounded

/-- what belongs together among filters and gains is in order -/
structure FiltersOrdered (s : Settings) : Prop where
  gyro : s.gyro.Ordered
  profiles : ∀ p ∈ s.pidProfiles, p.Ordered

theorem clampFilters_eq_pure {s : Settings} (h : FiltersBounded s) : clampFilters s = pure s := by
  have hslots := Fixed.slots_eq_pure fun p hp => clampProfile_eq_pure (h.profiles p hp)
  simp only [clampFilters, clampGyro_eq_pure h.gyro, hslots, pure_bind]

theorem bounded_clampFilters (s : Settings) : FiltersBounded (clampFilters s).value :=
  ⟨bounded_clampGyro s.gyro, Fixed.forall_mem_slots fun p _ => bounded_clampProfile p⟩

theorem orderFilters_eq_pure {s : Settings} (h : FiltersOrdered s) : orderFilters s = pure s := by
  have hslots := Fixed.slots_eq_pure fun p hp => orderProfile_eq_pure (h.profiles p hp)
  simp only [orderFilters, orderGyro_eq_pure h.gyro, hslots, pure_bind]

theorem ordered_orderFilters (s : Settings) : FiltersOrdered (orderFilters s).value :=
  ⟨ordered_orderGyro s.gyro, Fixed.forall_mem_slots fun p _ => ordered_orderProfile p⟩

theorem bounded_orderFilters {s : Settings} (h : FiltersBounded s) : FiltersBounded (orderFilters s).value :=
  ⟨bounded_orderGyro h.gyro, Fixed.forall_mem_slots fun p hp => bounded_orderProfile (h.profiles p hp)⟩

end Repair
end FlightStore
