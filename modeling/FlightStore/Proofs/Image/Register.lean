/-
The register of the checksum.

A shift by one bit is linear for `^^^` and injective (`shiftBit_xor`, `shiftBit_injective`), so a register is a
polynomial over two elements, its top bit the constant, and `shiftBit` multiplies by the unknown modulo the generator.
`power k` is the k-th power of the unknown. All that the checksum can tell about changed bytes follows from three
facts:
- `minimalPeriod_one`: the powers come back to one after 32767 shifts, not earlier (`power_inj_of_lt`);
- `parity_power`: each power has an odd number of ones, because the generator has an even number of terms;
- `checksum_modify`: a changed byte changes the checksum by the change itself, shifted by its distance from the end.
-/
import Mathlib.Data.Nat.Digits.Defs
import Mathlib.Dynamics.PeriodicPts.Lemmas
import Mathlib.Tactic
import FlightStore.Image.Checksum

namespace FlightStore.Image

open Function

/-! ## One shift -/

theorem shiftBit_xor (r s : BitVec 16) : shiftBit (r ^^^ s) = shiftBit r ^^^ shiftBit s := by
  unfold shiftBit
  rw [BitVec.getLsbD_xor, BitVec.ushiftRight_xor_distrib]
  cases r.getLsbD 0 <;> cases s.getLsbD 0
  · rfl
  · exact BitVec.xor_assoc ..
  · show r >>> 1 ^^^ s >>> 1 ^^^ polynomial = r >>> 1 ^^^ polynomial ^^^ s >>> 1
    ac_rfl
  · show r >>> 1 ^^^ s >>> 1 = r >>> 1 ^^^ polynomial ^^^ (s >>> 1 ^^^ polynomial)
    have hcancel : polynomial ^^^ polynomial = 0#16 := BitVec.xor_self
    calc r >>> 1 ^^^ s >>> 1 = r >>> 1 ^^^ s >>> 1 ^^^ (polynomial ^^^ polynomial) := by rw [hcancel, BitVec.xor_zero]
      _ = r >>> 1 ^^^ polynomial ^^^ (s >>> 1 ^^^ polynomial) := by ac_rfl

theorem shiftBit_of_even {r : BitVec 16} (h : r.getLsbD 0 = false) : shiftBit r = r >>> 1 := by
  rw [shiftBit, h]
  rfl

theorem eq_zero_of_shiftBit {r : BitVec 16} (h : shiftBit r = 0) : r = 0 := by
  cases hlow : r.getLsbD 0 with
  | true =>
    -- the polynomial has its top bit set, and nothing is shifted there
    have htop := congrArg (·.getLsbD 15) h
    simp [shiftBit, hlow, polynomial] at htop
  | false =>
    rw [shiftBit_of_even hlow] at h
    refine BitVec.eq_of_getLsbD_eq fun k hk => ?_
    cases k with
    | zero => exact hlow
    | succ k =>
      have hnext := congrArg (·.getLsbD k) h
      simpa [BitVec.getLsbD_ushiftRight, Nat.add_comm 1 k] using hnext

theorem shiftBit_injective : Injective shiftBit := by
  intro r s h
  have hzero : shiftBit (r ^^^ s) = 0 := by
    rw [shiftBit_xor, h]
    exact BitVec.xor_self
  exact BitVec.xor_eq_zero_iff.1 (eq_zero_of_shiftBit hzero)

theorem iterate_shiftBit_xor (k : Nat) (r s : BitVec 16) :
    shiftBit^[k] (r ^^^ s) = shiftBit^[k] r ^^^ shiftBit^[k] s := by
  induction k with
  | zero => rfl
  | succ k ih => rw [iterate_succ_apply', iterate_succ_apply', iterate_succ_apply', ih, shiftBit_xor]

/-- a register of low bits that the shifts do not reach is only moved -/
theorem iterate_shiftBit_shiftLeft {k : Nat} {r : BitVec 16} (h : r.toNat * 2 ^ k < 2 ^ 16) :
    shiftBit^[k] (r <<< k) = r := by
  induction k with
  | zero => exact BitVec.shiftLeft_zero ..
  | succ k ih =>
    rw [Nat.pow_succ, ← Nat.mul_assoc] at h
    have heven : (r <<< (k + 1)).getLsbD 0 = false := by simp
    have hback : r <<< (k + 1) >>> 1 = r <<< k := by
      refine BitVec.eq_of_toNat_eq ?_
      rw [BitVec.toNat_ushiftRight, BitVec.toNat_shiftLeft, BitVec.toNat_shiftLeft, Nat.shiftLeft_eq, Nat.shiftLeft_eq,
        Nat.pow_succ, ← Nat.mul_assoc, Nat.mod_eq_of_lt h, Nat.mod_eq_of_lt (by omega), Nat.shiftRight_one,
        Nat.mul_div_cancel _ Nat.two_pos]
    rw [iterate_succ_apply, shiftBit_of_even heven, hback, ih (by omega)]

/-! ## Powers -/

namespace Register

/-- the constant one: the top bit -/
def one : BitVec 16 := 0x8000#16

def power (k : Nat) : BitVec 16 := shiftBit^[k] one

/-- the product, from the highest term of w down -/
def times (v w : BitVec 16) : BitVec 16 :=
  (List.range 16).foldl (fun acc k => shiftBit acc ^^^ if w.getLsbD k then v else 0) 0

theorem shiftBit_times (v w : BitVec 16) : shiftBit (times v w) = times (shiftBit v) w := by
  have hfold : ∀ (ks : List Nat) (acc : BitVec 16),
      shiftBit (ks.foldl (fun acc k => shiftBit acc ^^^ if w.getLsbD k then v else 0) acc) =
        ks.foldl (fun acc k => shiftBit acc ^^^ if w.getLsbD k then shiftBit v else 0) (shiftBit acc) := by
    intro ks
    induction ks with
    | nil => exact fun _ => rfl
    | cons k ks ih =>
      intro acc
      rw [List.foldl_cons, List.foldl_cons, ih, shiftBit_xor, apply_ite shiftBit]
      rfl
  exact hfold _ _

theorem getLsbD_one {k : Nat} (hk : k < 16) : one.getLsbD k = decide (k = 15) := by
  interval_cases k <;> rfl

/-- one more bit of w enters at the top, when those below it have moved up to it -/
theorem shiftBit_shiftLeft_xor (w : BitVec 16) {n : Nat} (hn : n < 16) :
    (shiftBit (w <<< (16 - n)) ^^^ if w.getLsbD n then one else 0) = w <<< (16 - (n + 1)) := by
  have heven : (w <<< (16 - n)).getLsbD 0 = false := by
    rw [BitVec.getLsbD_shiftLeft, decide_eq_true (by omega : 0 < 16 - n)]
    simp
  rw [shiftBit_of_even heven]
  refine BitVec.eq_of_getLsbD_eq fun k hk => ?_
  have hbit : (if w.getLsbD n then one else 0).getLsbD k = (w.getLsbD n && decide (k = 15)) := by
    cases w.getLsbD n
    · simp
    · simpa using getLsbD_one hk
  rw [BitVec.getLsbD_xor, BitVec.getLsbD_ushiftRight, BitVec.getLsbD_shiftLeft, BitVec.getLsbD_shiftLeft, hbit]
  rcases Nat.lt_or_ge k 15 with hk15 | hk15
  · have hplace : 1 + k - (16 - n) = k - (16 - (n + 1)) := by omega
    have hlow : 1 + k < 16 - n ↔ k < 16 - (n + 1) := by omega
    have hne : k ≠ 15 := by omega
    have hk' : 1 + k < 16 := by omega
    simp [hplace, hlow, hne, hk, hk']
  · obtain rfl : k = 15 := by omega
    have hplace : 15 - (15 - n) = n := by omega
    have hhigh : ¬15 < 15 - n := by omega
    simp [hplace, hhigh]

theorem one_times (w : BitVec 16) : times one w = w := by
  have hfold : ∀ n ≤ 16, (List.range n).foldl (fun acc k => shiftBit acc ^^^ if w.getLsbD k then one else 0) 0 =
      w <<< (16 - n) := by
    intro n hn
    induction n with
    | zero => exact (BitVec.shiftLeft_eq_zero (Nat.le_refl 16)).symm
    | succ n ih =>
      rw [List.range_succ, List.foldl_append, ih (by omega), List.foldl_cons, List.foldl_nil]
      exact shiftBit_shiftLeft_xor w (by omega)
  rw [times, hfold 16 (Nat.le_refl 16)]
  exact BitVec.shiftLeft_zero ..

/-- shifts are products with a power -/
theorem iterate_shiftBit_eq (k : Nat) (w : BitVec 16) : shiftBit^[k] w = times (power k) w := by
  induction k with
  | zero => exact (one_times w).symm
  | succ k ih =>
    rw [power, iterate_succ_apply', iterate_succ_apply', ih, shiftBit_times]
    rfl

theorem power_add (a b : Nat) : power (a + b) = times (power a) (power b) := by
  rw [← iterate_shiftBit_eq, power, power, iterate_add_apply]

/-- a power by squaring, one step for each binary digit of the exponent -/
theorem power_eq_foldr (n : Nat) :
    power n = (Nat.digits 2 n).foldr (fun d r => shiftBit^[d] (times r r)) one := by
  conv_lhs => rw [← Nat.ofDigits_digits 2 n]
  induction Nat.digits 2 n with
  | nil => rfl
  | cons d ds ih =>
    rw [Nat.ofDigits_cons, List.foldr_cons, ← ih, two_mul, ← power_add, power, iterate_add_apply]
    rfl

/-! ## The period -/

theorem isPeriodicPt_one : IsPeriodicPt shiftBit 32767 one := by
  show power 32767 = one
  rw [power_eq_foldr]
  decide +kernel

/-- a period is the least one if no prime factor can be taken out of it -/
theorem minimalPeriod_eq_of_prime {α : Type*} {f : α → α} {x : α} {n : Nat} (hperiod : IsPeriodicPt f n x)
    (hprime : ∀ p : Nat, p.Prime → p ∣ n → ¬IsPeriodicPt f (n / p) x) : minimalPeriod f x = n := by
  obtain ⟨c, hc⟩ := hperiod.minimalPeriod_dvd
  by_contra hne
  have hc1 : c ≠ 1 := by
    rintro rfl
    exact hne (by rw [hc, Nat.mul_one])
  obtain ⟨p, hp, d, rfl⟩ := Nat.exists_prime_and_dvd hc1
  have hdiv : n / p = minimalPeriod f x * d := by
    rw [hc, Nat.mul_left_comm, Nat.mul_div_cancel_left _ hp.pos]
  refine hprime p hp ⟨minimalPeriod f x * d, by rw [hc, Nat.mul_left_comm]⟩ ?_
  rw [hdiv]
  exact (isPeriodicPt_minimalPeriod f x).mul_const d

/-- **The period.** One comes back after 32767 shifts, and not before. -/
theorem minimalPeriod_one : minimalPeriod shiftBit one = 32767 := by
  refine minimalPeriod_eq_of_prime isPeriodicPt_one fun p hp hdvd => ?_
  have hfactors : p = 7 ∨ p = 31 ∨ p = 151 := by
    have h : p ∣ 7 * 31 * 151 := hdvd
    rw [hp.dvd_mul, hp.dvd_mul, Nat.prime_dvd_prime_iff_eq hp (by norm_num),
      Nat.prime_dvd_prime_iff_eq hp (by norm_num), Nat.prime_dvd_prime_iff_eq hp (by norm_num), or_assoc] at h
    exact h
  rcases hfactors with rfl | rfl | rfl <;>
  · show power _ ≠ one
    rw [power_eq_foldr]
    decide +kernel

/-- up to the period, only its two ends are powers that agree -/
theorem power_inj_of_lt {a b : Nat} (h : power a = power b) (hab : a < b) (hb : b ≤ 32767) : a = 0 ∧ b = 32767 := by
  have hreturn : IsPeriodicPt shiftBit (b - a) one := by
    refine shiftBit_injective.iterate a ?_
    rw [← iterate_add_apply, Nat.add_sub_cancel' hab.le]
    exact h.symm
  have hdvd : 32767 ∣ b - a := minimalPeriod_one ▸ hreturn.minimalPeriod_dvd
  have hle := Nat.le_of_dvd (Nat.sub_pos_of_lt hab) hdvd
  omega

/-! ## Parity -/

/-- whether the number of ones is odd -/
def parity (r : BitVec 16) : Bool := (List.range 16).foldl (fun odd k => odd ^^ r.getLsbD k) false

theorem parity_xor (r s : BitVec 16) : parity (r ^^^ s) = (parity r ^^ parity s) := by
  have hfold : ∀ (ks : List Nat) (a b : Bool),
      ks.foldl (fun odd k => odd ^^ (r ^^^ s).getLsbD k) (a ^^ b) =
        (ks.foldl (fun odd k => odd ^^ r.getLsbD k) a ^^ ks.foldl (fun odd k => odd ^^ s.getLsbD k) b) := by
    intro ks
    induction ks with
    | nil => exact fun _ _ => rfl
    | cons k ks ih =>
      intro a b
      have hhead : ((a ^^ b) ^^ (r ^^^ s).getLsbD k) = ((a ^^ r.getLsbD k) ^^ (b ^^ s.getLsbD k)) := by
        rw [BitVec.getLsbD_xor]
        simp only [Bool.xor_assoc, Bool.xor_left_comm]
      rw [List.foldl_cons, List.foldl_cons, List.foldl_cons, hhead, ih]
  exact hfold _ false false

theorem parity_ushiftRight (r : BitVec 16) : parity (r >>> 1) = (r.getLsbD 0 ^^ parity r) := by
  simp [parity, List.range_succ]

/-- the bit that is shifted out is made up for by the odd polynomial -/
theorem parity_shiftBit (r : BitVec 16) : parity (shiftBit r) = parity r := by
  have hpolynomial : parity polynomial = true := by decide
  cases hlow : r.getLsbD 0 with
  | true =>
    have hshift : shiftBit r = r >>> 1 ^^^ polynomial := by
      rw [shiftBit, hlow]
      rfl
    rw [hshift, parity_xor, hpolynomial, parity_ushiftRight, hlow]
    simp
  | false => rw [shiftBit_of_even hlow, parity_ushiftRight, hlow, Bool.false_xor]

theorem parity_power (k : Nat) : parity (power k) = true := by
  induction k with
  | zero => rfl
  | succ k ih =>
    rw [power, iterate_succ_apply', parity_shiftBit]
    exact ih

end Register

/-! ## Changed bytes -/

theorem shiftByte_eq_iterate (r : BitVec 16) : shiftByte r = shiftBit^[8] r := rfl

theorem feed_xor_left (r s : BitVec 16) (b : UInt8) : feed (r ^^^ s) b = feed r b ^^^ shiftBit^[8] s := by
  rw [feed, feed, shiftByte_eq_iterate, shiftByte_eq_iterate, ← iterate_shiftBit_xor]
  congr 1
  ac_rfl

theorem feed_xor_right (r : BitVec 16) (b m : UInt8) :
    feed r (b ^^^ m) = feed r b ^^^ shiftBit^[8] (m.toBitVec.setWidth 16) := by
  rw [← feed_xor_left, feed, feed, UInt8.toBitVec_xor, BitVec.setWidth_xor]
  congr 1
  ac_rfl

theorem foldl_feed_xor (bytes : List UInt8) (r s : BitVec 16) :
    bytes.foldl feed (r ^^^ s) = bytes.foldl feed r ^^^ shiftBit^[8 * bytes.length] s := by
  induction bytes generalizing r s with
  | nil => rfl
  | cons b bytes ih =>
    rw [List.foldl_cons, List.foldl_cons, feed_xor_left, ih, List.length_cons, Nat.mul_succ, iterate_add_apply]

theorem foldl_feed_modify {n : Nat} {bytes : List UInt8} (hn : n < bytes.length) (m : UInt8) (r : BitVec 16) :
    (bytes.modify n (· ^^^ m)).foldl feed r =
      bytes.foldl feed r ^^^ shiftBit^[8 * (bytes.length - n)] (m.toBitVec.setWidth 16) := by
  induction bytes generalizing n r with
  | nil => cases hn
  | cons b bytes ih =>
    cases n with
    | zero =>
      rw [List.modify_zero_cons, List.foldl_cons, List.foldl_cons, feed_xor_right, foldl_feed_xor, ← iterate_add_apply]
      rfl
    | succ n =>
      rw [List.modify_succ_cons, List.foldl_cons, List.foldl_cons, ih (Nat.lt_of_succ_lt_succ hn), List.length_cons,
        Nat.succ_sub_succ]

/-- **One changed byte.** The checksum changes by what was changed, shifted eight times for each byte from there on. -/
theorem checksum_modify {n : Nat} {bytes : List UInt8} (hn : n < bytes.length) (m : UInt8) :
    checksum (bytes.modify n (· ^^^ m)) =
      checksum bytes ^^^ shiftBit^[8 * (bytes.length - n)] (m.toBitVec.setWidth 16) := by
  rw [checksum, checksum, foldl_feed_modify hn, BitVec.not_xor_left]

end FlightStore.Image
