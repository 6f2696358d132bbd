/-
Laws of the loop timing.

A denominator of the control loop is slow enough for a motor protocol if the period of the loop is at least the shortest
interval between two commands. `minProcessDenom` is the threshold: no smaller denominator is slow enough
(`minProcessDenom_le_of_slow`), and it is slow enough itself or the largest there is (`slow_or_eq_max`). Multiples of a
sampling interval are durations that can be represented (`times?_controlLoopPeriod`).
-/
import Mathlib.Algebra.Order.Floor.Div
import Mathlib.Tactic
import FlightStore.Loop.Timing

namespace FlightStore.Timing

variable {restriction sampling : Nat} {sync p q : UInt8}

/-! ## The threshold of the denominator -/

theorem controlLoopPeriod_mono (sampling : Nat) (sync : UInt8) (h : p ≤ q) :
    controlLoopPeriod sampling sync p ≤ controlLoopPeriod sampling sync q :=
  Nat.mul_le_mul_left _ (Nat.mul_le_mul_left _ (UInt8.le_iff_toNat_le.1 h))

/-- a denominator is slow enough from a quotient on, which is rounded up -/
theorem le_controlLoopPeriod_iff (hsampling : 0 < sampling) (hsync : 1 ≤ sync) :
    restriction ≤ controlLoopPeriod sampling sync q ↔ restriction ⌈/⌉ (sampling * sync.toNat) ≤ q.toNat := by
  have hpos : 0 < sampling * sync.toNat := Nat.mul_pos hsampling (UInt8.le_iff_toNat_le.1 hsync)
  rw [ceilDiv_le_iff_le_mul hpos, controlLoopPeriod, Nat.mul_assoc]

/-- a quotient between the smallest and the largest denominator is a byte -/
theorem clamped_lt (quotient : Nat) : min (max quotient 1) maxProcessDenom.toNat < 2 ^ 8 :=
  Nat.lt_of_le_of_lt (Nat.min_le_right _ _) maxProcessDenom.toNat_lt

/-- whatever the intervals are, the threshold is a denominator -/
theorem minProcessDenom_mem (restriction sampling : Nat) (sync : UInt8) :
    1 ≤ minProcessDenom restriction sampling sync ∧ minProcessDenom restriction sampling sync ≤ maxProcessDenom := by
  have hmax : 1 ≤ maxProcessDenom.toNat := by decide
  rw [UInt8.le_iff_toNat_le, UInt8.le_iff_toNat_le, minProcessDenom, UInt8.toNat_ofNat_of_lt' (clamped_lt _)]
  exact ⟨Nat.le_min.2 ⟨Nat.le_max_right _ _, hmax⟩, Nat.min_le_right _ _⟩

theorem toNat_minProcessDenom (hsampling : 0 < sampling) (hsync : 1 ≤ sync) :
    (minProcessDenom restriction sampling sync).toNat =
      min (max (restriction ⌈/⌉ (sampling * sync.toNat)) 1) maxProcessDenom.toNat := by
  have hsync : max sync.toNat 1 = sync.toNat := Nat.max_eq_left (UInt8.le_iff_toNat_le.1 hsync)
  have hpos : 0 < sampling * sync.toNat := Nat.mul_pos hsampling (by omega)
  have hperiod : max (sampling * max sync.toNat 1) 1 = sampling * sync.toNat := by
    rw [hsync]
    exact Nat.max_eq_left hpos
  rw [minProcessDenom, hperiod, UInt8.toNat_ofNat_of_lt' (clamped_lt _), Nat.ceilDiv_eq_add_pred_div]

/-- no denominator below the threshold is slow enough -/
theorem minProcessDenom_le_of_slow (hsampling : 0 < sampling) (hsync : 1 ≤ sync) (hq : 1 ≤ q)
    (hslow : restriction ≤ controlLoopPeriod sampling sync q) : minProcessDenom restriction sampling sync ≤ q := by
  have hquotient := (le_controlLoopPeriod_iff hsampling hsync).1 hslow
  have hone : 1 ≤ q.toNat := UInt8.le_iff_toNat_le.1 hq
  rw [UInt8.le_iff_toNat_le, toNat_minProcessDenom hsampling hsync]
  omega

/-- the threshold is slow enough, unless it is the largest denominator -/
theorem slow_or_eq_max (restriction : Nat) (hsampling : 0 < sampling) (hsync : 1 ≤ sync) :
    restriction ≤ controlLoopPeriod sampling sync (minProcessDenom restriction sampling sync) ∨
      minProcessDenom restriction sampling sync = maxProcessDenom := by
  rw [le_controlLoopPeriod_iff hsampling hsync, ← UInt8.toNat_inj, toNat_minProcessDenom hsampling hsync]
  omega

example : minProcessDenom 260000 125000 1 = 3 := by decide

/-! ## Intervals of sensors and protocols -/

theorem samplingInterval_pos (sensor : SensorModel) (lowpass : HardwareLowpass) :
    0 < samplingInterval sensor lowpass := by
  cases sensor <;> cases lowpass <;> decide

theorem samplingInterval_le (sensor : SensorModel) (lowpass : HardwareLowpass) :
    samplingInterval sensor lowpass ≤ nanosPerSecond := by
  cases sensor <;> cases lowpass <;> decide

/-- the fastest pulse rate of its own that a protocol takes is not rounded up -/
theorem maxUpdateRate_mul_le {protocol : MotorProtocol} (h : protocol.limitsUnsyncedRate) :
    (maxUpdateRate (updateRestriction protocol)).toNat * updateRestriction protocol ≤ nanosPerSecond := by
  revert h
  cases protocol <;> decide

/-! ## Durations -/

/-- a multiple of a duration, if its whole seconds fit into 64 bits -/
def times? (nanos : Nat) (k : UInt32) : Option Nat :=
  if nanos * k.toNat / nanosPerSecond < 2 ^ 64 then some (nanos * k.toNat) else none

/-- multiples of at most a second fit -/
theorem times?_of_le {nanos : Nat} (h : nanos ≤ nanosPerSecond) (k : UInt32) : times? nanos k = some (nanos * k.toNat) := by
  have hseconds : nanos * k.toNat / nanosPerSecond ≤ k.toNat :=
    Nat.div_le_of_le_mul (Nat.mul_le_mul_right k.toNat h)
  have hk : k.toNat < 2 ^ 32 := k.toNat_lt
  exact if_pos (by omega)

/-- the period of the control loop is computed without an overflow -/
theorem times?_controlLoopPeriod (sensor : SensorModel) (lowpass : HardwareLowpass) (sync process : UInt8) :
    times? (samplingInterval sensor lowpass) (sync.toUInt32 * process.toUInt32) =
      some (controlLoopPeriod (samplingInterval sensor lowpass) sync process) := by
  have hfactor : (sync.toUInt32 * process.toUInt32).toNat = sync.toNat * process.toNat := by
    have hlt : sync.toNat * process.toNat < 256 * 256 :=
      Nat.mul_lt_mul'' sync.toNat_lt process.toNat_lt
    rw [UInt32.toNat_mul, UInt8.toNat_toUInt32, UInt8.toNat_toUInt32]
    exact Nat.mod_eq_of_lt (by omega)
  rw [times?_of_le (samplingInterval_le sensor lowpass), hfactor, controlLoopPeriod]

/-- the period of the gyro loop is computed without an overflow -/
theorem times?_sync (sensor : SensorModel) (lowpass : HardwareLowpass) (sync : UInt8) :
    times? (samplingInterval sensor lowpass) sync.toUInt32 = some (samplingInterval sensor lowpass * sync.toNat) := by
  rw [times?_of_le (samplingInterval_le sensor lowpass), UInt8.toNat_toUInt32]

end FlightStore.Timing
