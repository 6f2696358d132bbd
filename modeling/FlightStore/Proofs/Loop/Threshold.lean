/-
The threshold of the denominator, for durations of any length and computed on machine words.

A duration is a word of 64 bits for whole seconds and one of 32 bits for the nanoseconds that are left. A multiple is
computed part by part (`Duration.times?`), and the threshold in words of 128 bits (`Duration.minProcessDenom?`). Each
step is checked: a number that does not fit its word and a division by zero have no result. These computations agree
with those in whole nanoseconds (`Duration.exists_loopPeriod?`, `Duration.minProcessDenom?_eq`): the threshold is never
refused, and a period only if it is too long for a duration (`Duration.times?_nanos`).

`ThresholdExact` says what the threshold is worth: it is always computed and lies between 1 and 16, the denominators
that are slow enough for a restriction are those from the threshold on, and it is 16 if there are none.
`minProcessDenom_exact` proves it of all restrictions, samplings and denominators of the gyro loop.
-/
import Mathlib.Algebra.Order.Floor.Div
import Mathlib.Tactic
import FlightStore.Proofs.Loop.Timing

namespace FlightStore.Timing

/-! ## Words -/

/-- a number, if it fits into a word -/
def fits? (bits n : Nat) : Option Nat := if n < 2 ^ bits then some n else none

theorem fits?_of_lt {bits n : Nat} (h : n < 2 ^ bits) : fits? bits n = some n := if_pos h

theorem fits?_of_le {bits n : Nat} (h : 2 ^ bits ≤ n) : fits? bits n = none := if_neg (Nat.not_lt.2 h)

/-- a quotient that is rounded up, in words of 128 bits -/
def divCeil? (a b : Nat) : Option Nat :=
  if b = 0 then none else if 0 < a % b then fits? 128 (a / b + 1) else some (a / b)

/-- a quotient is rounded up if something is left -/
theorem ceilDiv_eq_ite {b : Nat} (hb : 0 < b) (a : Nat) : a ⌈/⌉ b = if 0 < a % b then a / b + 1 else a / b := by
  have hparts : a / b * b + a % b = a := Nat.div_add_mod' a b
  have hrest : a % b < b := Nat.mod_lt a hb
  have hnext : (a / b + 1) * b = a / b * b + b := Nat.succ_mul _ b
  have hlast : (a / b + 1 + 1) * b = (a / b + 1) * b + b := Nat.succ_mul _ b
  rw [Nat.ceilDiv_eq_add_pred_div]
  split_ifs with h
  · exact Nat.div_eq_of_lt_le (by omega) (by omega)
  · exact Nat.div_eq_of_lt_le (by omega) (by omega)

theorem divCeil?_eq {a b : Nat} (ha : a < 2 ^ 128) (hb : 0 < b) : divCeil? a b = some (a ⌈/⌉ b) := by
  rw [divCeil?, if_neg hb.ne', ceilDiv_eq_ite hb]
  split_ifs with hrest
  · have hlt : a / b < a := Nat.div_lt_self (Nat.pos_of_ne_zero fun h => by simp [h] at hrest)
      (Nat.lt_of_le_of_ne hb fun h => by simp [← h, Nat.mod_one] at hrest)
    exact fits?_of_lt (by omega)
  · rfl

/-! ## Durations -/

/-- whole seconds and the nanoseconds that are left -/
structure Duration where
  seconds : UInt64
  rest : UInt32
  rest_lt : rest.toNat < nanosPerSecond

namespace Duration

/-- a duration from its seconds and from nanoseconds that are less than a second -/
def ofParts (seconds : UInt64) (rest : Nat) (h : rest < nanosPerSecond) : Duration where
  seconds := seconds
  rest := .ofNat rest
  rest_lt := by
    rw [UInt32.toNat_ofNat_of_lt' (Nat.lt_trans h (by decide))]
    exact h

def nanos (d : Duration) : Nat := d.seconds.toNat * nanosPerSecond + d.rest.toNat

/-- the seconds are compared first -/
instance : LE Duration := ⟨fun d e => d.seconds < e.seconds ∨ d.seconds = e.seconds ∧ d.rest ≤ e.rest⟩

theorem le_iff_nanos_le {d e : Duration} : d ≤ e ↔ d.nanos ≤ e.nanos := by
  have hd := d.rest_lt
  have he := e.rest_lt
  show d.seconds < e.seconds ∨ d.seconds = e.seconds ∧ d.rest ≤ e.rest ↔ _
  rw [UInt64.lt_iff_toNat_lt, UInt32.le_iff_toNat_le, ← UInt64.toNat_inj]
  simp only [nanos, nanosPerSecond] at *
  omega

theorem nanos_ofParts {seconds rest : Nat} (hseconds : seconds < 2 ^ 64) (h : rest < nanosPerSecond) :
    (ofParts (.ofNat seconds) rest h).nanos = seconds * nanosPerSecond + rest := by
  have hrest : (UInt32.ofNat rest).toNat = rest := UInt32.toNat_ofNat_of_lt' (Nat.lt_trans h (by decide))
  rw [nanos, ofParts, UInt64.toNat_ofNat_of_lt' hseconds, hrest]

theorem nanos_lt (d : Duration) : d.nanos < 2 ^ 94 := by
  have hseconds := d.seconds.toNat_lt
  have hrest := d.rest_lt
  simp only [nanos, nanosPerSecond] at *
  omega

/-- whole nanoseconds in a word of 128 bits -/
def nanos? (d : Duration) : Option Nat := do
  let seconds ← fits? 128 (d.seconds.toNat * nanosPerSecond)
  fits? 128 (seconds + d.rest.toNat)

theorem nanos?_eq (d : Duration) : d.nanos? = some d.nanos := by
  have hlt : d.nanos < 2 ^ 128 := Nat.lt_trans d.nanos_lt (by decide)
  rw [nanos] at hlt ⊢
  have hseconds : d.seconds.toNat * nanosPerSecond < 2 ^ 128 := by omega
  rw [nanos?, fits?_of_lt hseconds, Option.bind_eq_bind, Option.bind_some, fits?_of_lt hlt]

/-- a multiple, part by part; what the nanoseconds carry over is added to the seconds -/
def times? (d : Duration) (k : UInt32) : Option Duration := do
  let rest ← fits? 64 (d.rest.toNat * k.toNat)
  let whole ← fits? 64 (d.seconds.toNat * k.toNat)
  let seconds ← fits? 64 (whole + rest / nanosPerSecond)
  some (ofParts (.ofNat seconds) (rest % nanosPerSecond) (Nat.mod_lt rest (by decide)))

/-- a multiple is refused only if its seconds do not fit -/
theorem times?_nanos (d : Duration) (k : UInt32) : (d.times? k).map nanos = Timing.times? d.nanos k := by
  have hrest : d.rest.toNat * k.toNat < 2 ^ 64 :=
    Nat.lt_of_lt_of_le (Nat.mul_lt_mul'' d.rest.toNat_lt k.toNat_lt) (by decide)
  have hproduct : d.nanos * k.toNat = d.seconds.toNat * k.toNat * nanosPerSecond + d.rest.toNat * k.toNat := by
    rw [nanos, Nat.add_mul, Nat.mul_right_comm]
  rw [times?, Timing.times?, fits?_of_lt hrest, hproduct]
  generalize d.rest.toNat * k.toNat = rest
  generalize d.seconds.toNat * k.toNat = whole
  have hseconds : (whole * nanosPerSecond + rest) / nanosPerSecond = whole + rest / nanosPerSecond := by
    rw [Nat.mul_comm whole, Nat.mul_add_div (by decide)]
  have hcarried : (whole + rest / nanosPerSecond) * nanosPerSecond + rest % nanosPerSecond =
      whole * nanosPerSecond + rest := by
    rw [Nat.add_mul, Nat.add_assoc, Nat.div_add_mod']
  rw [hseconds]
  split_ifs with h
  · have hwhole : whole < 2 ^ 64 := Nat.lt_of_le_of_lt (Nat.le_add_right _ _) h
    simp only [fits?_of_lt hwhole, fits?_of_lt h, Option.bind_eq_bind, Option.bind_some, Option.map_some,
      nanos_ofParts h, hcarried]
  · -- the seconds overflow before or after the carry
    rcases Nat.lt_or_ge whole (2 ^ 64) with hwhole | hwhole
    · simp only [fits?_of_lt hwhole, fits?_of_le (Nat.not_lt.1 h), Option.bind_eq_bind, Option.bind_some,
        Option.bind_none, Option.map_none]
    · simp only [fits?_of_le hwhole, Option.bind_eq_bind, Option.bind_some, Option.bind_none, Option.map_none]

/-- the period of the control loop, the product of the denominators in a word of 32 bits -/
def loopPeriod? (sampling : Duration) (sync process : UInt8) : Option Duration := do
  let factor ← fits? 32 (sync.toNat * process.toNat)
  sampling.times? (.ofNat factor)

theorem exists_loopPeriod? {sampling : Duration} {sync process : UInt8}
    (h : controlLoopPeriod sampling.nanos sync process / nanosPerSecond < 2 ^ 64) :
    ∃ period, sampling.loopPeriod? sync process = some period ∧
      period.nanos = controlLoopPeriod sampling.nanos sync process := by
  have hfactor : sync.toNat * process.toNat < 2 ^ 32 :=
    Nat.lt_of_lt_of_le (Nat.mul_lt_mul'' sync.toNat_lt process.toNat_lt) (by decide)
  have hword : (UInt32.ofNat (sync.toNat * process.toNat)).toNat = sync.toNat * process.toNat :=
    UInt32.toNat_ofNat_of_lt' hfactor
  have hperiod : Timing.times? sampling.nanos (.ofNat (sync.toNat * process.toNat)) =
      some (controlLoopPeriod sampling.nanos sync process) := by
    rw [Timing.times?, hword]
    exact if_pos h
  rw [← times?_nanos, Option.map_eq_some_iff] at hperiod
  rw [loopPeriod?, fits?_of_lt hfactor, Option.bind_eq_bind, Option.bind_some]
  exact hperiod

/-- the threshold of the denominator, in words of 128 bits and at the end one of 8 -/
def minProcessDenom? (restriction sampling : Duration) (sync : UInt8) : Option UInt8 := do
  let sample ← sampling.nanos?
  let gyroPeriod ← fits? 128 (sample * max sync.toNat 1)
  let interval ← restriction.nanos?
  let quotient ← divCeil? interval (max gyroPeriod 1)
  let denom ← fits? 8 (min (max quotient 1) maxProcessDenom.toNat)
  some (.ofNat denom)

/-- no step of the threshold overflows or divides by zero -/
theorem minProcessDenom?_eq (restriction sampling : Duration) (sync : UInt8) :
    restriction.minProcessDenom? sampling sync = some (minProcessDenom restriction.nanos sampling.nanos sync) := by
  have hsync : max sync.toNat 1 < 2 ^ 8 := Nat.max_lt.2 ⟨sync.toNat_lt, by decide⟩
  have hgyro : sampling.nanos * max sync.toNat 1 < 2 ^ 128 :=
    Nat.lt_of_lt_of_le (Nat.mul_lt_mul'' sampling.nanos_lt hsync) (by decide)
  have hinterval : restriction.nanos < 2 ^ 128 := Nat.lt_trans restriction.nanos_lt (by decide)
  have hdivisor : 0 < max (sampling.nanos * max sync.toNat 1) 1 := Nat.lt_of_lt_of_le Nat.one_pos (Nat.le_max_right _ _)
  rw [minProcessDenom?, nanos?_eq, nanos?_eq, Option.bind_eq_bind, Option.bind_some, fits?_of_lt hgyro,
    Option.bind_some, Option.bind_some, divCeil?_eq hinterval hdivisor, Option.bind_some, fits?_of_lt (clamped_lt _),
    Option.bind_some, minProcessDenom, Nat.ceilDiv_eq_add_pred_div]

end Duration

/-! ## The threshold -/

variable {restriction sampling : Nat} {sync q : UInt8}

/-- if any denominator is slow enough, the threshold is -/
theorem slow_minProcessDenom (hsampling : 0 < sampling) (hsync : 1 ≤ sync) (hq : q ≤ maxProcessDenom)
    (hslow : restriction ≤ controlLoopPeriod sampling sync q) :
    restriction ≤ controlLoopPeriod sampling sync (minProcessDenom restriction sampling sync) := by
  rcases slow_or_eq_max restriction hsampling hsync with h | h
  · exact h
  · rw [h]
    exact Nat.le_trans hslow (controlLoopPeriod_mono sampling sync hq)

/-- with this denominator the control loop is not faster than a restriction -/
def Slow (restriction sampling : Duration) (sync d : UInt8) : Prop :=
  restriction.nanos ≤ controlLoopPeriod sampling.nanos sync d

/-- what the threshold is worth -/
structure ThresholdExact (restriction sampling : Duration) (sync : UInt8) : Prop where
  /-- every step fits its word, and nothing is divided by zero -/
  computed : restriction.minProcessDenom? sampling sync =
    some (minProcessDenom restriction.nanos sampling.nanos sync)
  bounds : 1 ≤ minProcessDenom restriction.nanos sampling.nanos sync ∧
    minProcessDenom restriction.nanos sampling.nanos sync ≤ 16
  /-- if any denominator is slow enough, it is those from the threshold on -/
  slow_iff : 0 < sampling.nanos → 1 ≤ sync → (∃ d : UInt8, 1 ≤ d ∧ d ≤ 16 ∧ Slow restriction sampling sync d) →
    ∀ d : UInt8, 1 ≤ d → d ≤ 16 →
      (Slow restriction sampling sync d ↔ minProcessDenom restriction.nanos sampling.nanos sync ≤ d)
  /-- if none is slow enough, the threshold is the largest -/
  saturated : 0 < sampling.nanos → 1 ≤ sync → (¬ ∃ d : UInt8, 1 ≤ d ∧ d ≤ 16 ∧ Slow restriction sampling sync d) →
    minProcessDenom restriction.nanos sampling.nanos sync = 16
  /-- a period that fits into a duration is computed without an overflow, and durations compare as nanoseconds do -/
  periods : ∀ d : UInt8, controlLoopPeriod sampling.nanos sync d / nanosPerSecond < 2 ^ 64 →
    ∃ period, sampling.loopPeriod? sync d = some period ∧
      period.nanos = controlLoopPeriod sampling.nanos sync d ∧ (restriction ≤ period ↔ Slow restriction sampling sync d)

/-- **The threshold is exact.** For every restriction and every sampling interval, as long as durations go, and every
denominator of the gyro loop. -/
theorem minProcessDenom_exact (restriction sampling : Duration) (sync : UInt8) :
    ThresholdExact restriction sampling sync := by
  refine ⟨Duration.minProcessDenom?_eq restriction sampling sync, minProcessDenom_mem _ _ sync, ?_, ?_, ?_⟩
  · rintro hsampling hsync ⟨q, -, hq, hslow⟩ d hone -
    have hthreshold := slow_minProcessDenom hsampling hsync hq hslow
    exact ⟨minProcessDenom_le_of_slow hsampling hsync hone,
      fun hd => Nat.le_trans hthreshold (controlLoopPeriod_mono sampling.nanos sync hd)⟩
  · intro hsampling hsync hnone
    obtain ⟨hone, hmax⟩ := minProcessDenom_mem restriction.nanos sampling.nanos sync
    rcases slow_or_eq_max restriction.nanos hsampling hsync with hslow | h
    · exact absurd ⟨_, hone, hmax, hslow⟩ hnone
    · exact h
  · intro d hfits
    obtain ⟨period, hcomputed, hnanos⟩ := Duration.exists_loopPeriod? hfits
    refine ⟨period, hcomputed, hnanos, ?_⟩
    rw [Duration.le_iff_nanos_le, hnanos, Slow]

end FlightStore.Timing
