/-
Numbers of variable length read back.

A number below `2 ^ w` is read back at width `w`, whatever follows it (`getVarint_putVarint`), and takes one byte for
every seven bits (`length_putVarint_le`). Signed numbers of 16 bits pass through the zigzag sequence without loss.
-/
import Mathlib.Tactic
import FlightStore.Wire.Varint

namespace FlightStore.Wire

theorem putVarint_of_lt {n : Nat} (h : n < 128) : putVarint n = [UInt8.ofNat n] := by
  rw [putVarint, if_pos h]

theorem putVarint_of_le {n : Nat} (h : 128 ≤ n) :
    putVarint n = UInt8.ofNat (n % 128 + 128) :: putVarint (n / 128) := by
  rw [putVarint, if_neg (Nat.not_lt.2 h)]

/-- a last byte holds the number itself -/
theorem getVarint_last {w n : Nat} (h : n < 128) (hw : n < 2 ^ (w + 1)) (rest : List UInt8) :
    getVarint (w + 1) (UInt8.ofNat n :: rest) = .ok (n, rest) := by
  have hbyte : (UInt8.ofNat n).toNat = n := by
    rw [UInt8.toNat_ofNat']
    omega
  have hbits : n >>> (w + 1) = 0 := by
    rw [Nat.shiftRight_eq_div_pow, Nat.div_eq_of_lt hw]
  rw [getVarint, hbyte, if_pos h, if_pos hbits]

/-- a byte with more to follow holds the seven lowest bits -/
theorem getVarint_more {w n m : Nat} {bs rest : List UInt8} (h : getVarint (w + 1 - 7) bs = .ok (m, rest)) :
    getVarint (w + 1) (UInt8.ofNat (n % 128 + 128) :: bs) = .ok (n % 128 + 128 * m, rest) := by
  have hbyte : (UInt8.ofNat (n % 128 + 128)).toNat = n % 128 + 128 := by
    rw [UInt8.toNat_ofNat']
    omega
  rw [getVarint, hbyte, if_neg (by omega), h]
  dsimp only
  rw [Nat.add_sub_cancel]

/-- **Numbers read back.** A number within the width is read back, and what follows it is left alone. -/
theorem getVarint_putVarint {w : Nat} (hw : 0 < w) {n : Nat} (h : n < 2 ^ w) (rest : List UInt8) :
    getVarint w (putVarint n ++ rest) = .ok (n, rest) := by
  induction n using Nat.strongRecOn generalizing w with
  | ind n ih =>
    obtain ⟨v, rfl⟩ := Nat.exists_eq_add_one_of_ne_zero hw.ne'
    by_cases hn : n < 128
    · rw [putVarint_of_lt hn]
      exact getVarint_last hn h rest
    · have hn : 128 ≤ n := Nat.not_lt.1 hn
      -- more than seven bits, so that the width has room for a further byte
      have hwide : 7 < v + 1 := (Nat.pow_lt_pow_iff_right (by decide : 1 < 2)).1 (Nat.lt_of_le_of_lt hn h)
      have hrest : n / 128 < 2 ^ (v + 1 - 7) := by
        rw [Nat.div_lt_iff_lt_mul (by decide)]
        calc n < 2 ^ (v + 1) := h
          _ = 2 ^ (v + 1 - 7) * 128 := by rw [← Nat.pow_sub_mul_pow 2 hwide.le]
      have hread := ih (n / 128) (Nat.div_lt_self (by omega) (by decide)) (Nat.sub_pos_of_lt hwide) hrest
      rw [putVarint_of_le hn, List.cons_append, getVarint_more hread, Nat.mod_add_div]

/-- a byte for every seven bits -/
theorem length_putVarint_le {k n : Nat} (h : n < 128 ^ (k + 1)) : (putVarint n).length ≤ k + 1 := by
  induction k generalizing n with
  | zero =>
    rw [putVarint_of_lt (by simpa using h)]
    exact Nat.le_refl 1
  | succ k ih =>
    by_cases hn : n < 128
    · rw [putVarint_of_lt hn]
      exact Nat.succ_le_succ (Nat.zero_le _)
    · have hrest : n / 128 < 128 ^ (k + 1) := by
        rw [Nat.div_lt_iff_lt_mul (by decide)]
        exact h
      rw [putVarint_of_le (Nat.not_lt.1 hn), List.length_cons]
      exact Nat.succ_le_succ (ih hrest)

theorem unzigzag_zigzag (z : Int) : unzigzag (zigzag z) = z := by
  cases z with
  | ofNat n =>
    have hhalf : 2 * n / 2 = n := by omega
    rw [zigzag, unzigzag, if_pos (by omega), hhalf]
  | negSucc n =>
    have hhalf : (2 * n + 1) / 2 = n := by omega
    rw [zigzag, unzigzag, if_neg (by omega), hhalf]

/-- a signed number within some bits takes a place within as many -/
theorem zigzag_lt {k : Nat} {z : Int} (hlo : -(2 ^ k : Nat) ≤ z) (hhi : z < (2 ^ k : Nat)) :
    zigzag z < 2 ^ (k + 1) := by
  rw [Nat.pow_succ]
  cases z with
  | ofNat n =>
    have hn : n < 2 ^ k := Int.ofNat_lt.1 hhi
    rw [zigzag]
    omega
  | negSucc n =>
    rw [zigzag]
    omega

end FlightStore.Wire
