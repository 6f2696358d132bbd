/-
What the checksum detects.

The syndrome of an image is its checksum next to the stored one, zero for a sealed image. It is linear: a changed byte
adds its footprint to the syndrome (`syndrome_xorByte`), and a flipped bit adds one power of the register, at an
exponent that tells the bit from every other one (`syndrome_flip`, `exponent_inj`). Two sealed images
- differ in an even number of bits, since each power is odd (`Sealed.even_differences`);
- do not differ in two bits: their powers would agree, which only the two ends of the period do, and at the far end is
  the first bit of the magic letters (`Sealed.card_differences_ne_two`);
- do not differ in two neighbouring bytes of the body only: the register does not forget sixteen bits in a row
  (`Sealed.eq_of_neighbours`).
So an image without a fault has one after any change of up to three bits or within two neighbouring bytes
(`corruption_detected`). The letters are needed: the body has one bit too many for the period, and the checksum alone
does not see the two end bits flipped (`syndrome_flipAll_endBits`).
-/
import FlightStore.Proofs.Image.Framing
import FlightStore.Proofs.Image.Register

namespace FlightStore.Image

open Function Register

/-! ## Changed images -/

/-- the image with other bits in one byte -/
def xorByte (i : Image) (n : Nat) (m : UInt8) : Image where
  bytes := i.bytes.modify n (· ^^^ m)
  length_eq := by rw [List.length_modify, i.length_eq]

/-- bit p of an image, from the lowest bit of the first byte on -/
def bit (i : Image) (p : Nat) : Bool := (i.bytes.getD (p / 8) 0).toBitVec.getLsbD (p % 8)

/-- the image with bit p flipped -/
def flip (i : Image) (p : Nat) : Image := i.xorByte (p / 8) (UInt8.ofNat (2 ^ (p % 8)))

/-- the bits in which two images differ -/
def differences (i j : Image) : Finset (Fin (8 * size)) := {p | i.bit p ≠ j.bit p}

theorem getD_xorByte (i : Image) {n k : Nat} (hk : k < size) (m : UInt8) :
    (i.xorByte n m).bytes.getD k 0 = if n = k then i.bytes.getD k 0 ^^^ m else i.bytes.getD k 0 := by
  obtain ⟨b, hb⟩ : ∃ b, i.bytes[k]? = some b := ⟨_, List.getElem?_eq_getElem (i.length_eq ▸ hk)⟩
  rw [xorByte, List.getD_eq_getElem?_getD, List.getD_eq_getElem?_getD, List.getElem?_modify, hb]
  by_cases hn : n = k <;> simp [hn]

theorem bit_flip (i : Image) {p q : Nat} (hq : q < 8 * size) : (i.flip p).bit q = (i.bit q ^^ decide (p = q)) := by
  have hk : q / 8 < size := by omega
  rw [bit, bit, flip, getD_xorByte i hk]
  by_cases hbyte : p / 8 = q / 8
  · have hmask : (UInt8.ofNat (2 ^ (p % 8))).toBitVec.getLsbD (q % 8) = decide (p = q) := by
      rw [UInt8.toBitVec_ofNat', BitVec.getLsbD_ofNat, Nat.testBit_two_pow]
      have hsame : p % 8 = q % 8 ↔ p = q := by omega
      have hlow : q % 8 < 8 := Nat.mod_lt _ (by omega)
      simp [hsame, hlow]
    rw [if_pos hbyte, UInt8.toBitVec_xor, BitVec.getLsbD_xor, hmask]
  · have hne : p ≠ q := by
      rintro rfl
      exact hbyte rfl
    simp [hbyte, hne]

theorem eq_of_bytes {i j : Image} (h : ∀ k < size, i.bytes.getD k 0 = j.bytes.getD k 0) : i = j := by
  obtain ⟨a, ha⟩ := i
  obtain ⟨b, hb⟩ := j
  have hab : a = b := by
    refine List.ext_getElem (ha.trans hb.symm) fun k hka hkb => ?_
    have := h k (ha ▸ hka)
    rwa [List.getD_eq_getElem _ _ hka, List.getD_eq_getElem _ _ hkb] at this
  subst hab
  rfl

theorem eq_of_bits {i j : Image} (h : ∀ p < 8 * size, i.bit p = j.bit p) : i = j := by
  refine eq_of_bytes fun k hk => UInt8.eq_of_toBitVec_eq (BitVec.eq_of_getLsbD_eq fun b hb => ?_)
  have := h (8 * k + b) (by omega)
  rw [bit, bit] at this
  have hdiv : (8 * k + b) / 8 = k := by omega
  have hmod : (8 * k + b) % 8 = b := by omega
  rwa [hdiv, hmod] at this

/-- the image with all these bits flipped -/
def flipAll (i : Image) (places : List (Fin (8 * size))) : Image := places.foldl (fun i p => i.flip p) i

theorem bit_flipAll {places : List (Fin (8 * size))} (h : places.Nodup) (i : Image) (q : Fin (8 * size)) :
    (i.flipAll places).bit q = (i.bit q ^^ decide (q ∈ places)) := by
  induction places generalizing i with
  | nil => simp [flipAll]
  | cons p places ih =>
    obtain ⟨hp, hplaces⟩ := List.nodup_cons.1 h
    have hstep : i.flipAll (p :: places) = (i.flip p).flipAll places := rfl
    rw [hstep, ih hplaces, bit_flip i q.isLt]
    by_cases hq : p = q
    · subst hq
      simp [hp]
    · have hne : (p : Nat) ≠ q := fun h => hq (Fin.ext h)
      simp [hne, Ne.symm hq]

/-- flipped bits are the difference -/
theorem differences_flipAll {places : List (Fin (8 * size))} (h : places.Nodup) (i : Image) :
    i.differences (i.flipAll places) = places.toFinset := by
  ext q
  rw [differences, Finset.mem_filter_univ, bit_flipAll h, List.mem_toFinset]
  by_cases hq : q ∈ places <;> cases i.bit q <;> simp [hq]

/-- an image is another one with the bits flipped in which they differ -/
theorem flipAll_differences (i j : Image) : i.flipAll (i.differences j).toList = j := by
  refine eq_of_bits fun q hq => ?_
  have hbit := bit_flipAll (Finset.nodup_toList (i.differences j)) i ⟨q, hq⟩
  have hmem : ⟨q, hq⟩ ∈ (i.differences j).toList ↔ i.bit q ≠ j.bit q := by simp [differences]
  rw [hbit]
  simp only [hmem]
  cases i.bit q <;> cases j.bit q <;> simp

/-! ## The syndrome -/

/-- the last two bytes, as a register -/
def stamp (i : Image) : BitVec 16 :=
  (i.bytes.getD checksumOffset 0).toBitVec ++ (i.bytes.getD (checksumOffset + 1) 0).toBitVec

/-- the checksum of the body next to the stored one -/
def syndrome (i : Image) : BitVec 16 := checksum i.body ^^^ i.stamp

theorem toNat_stamp (i : Image) : i.stamp.toNat = i.storedChecksum := by
  rw [stamp, BitVec.toNat_append, ← Nat.shiftLeft_add_eq_or_of_lt (BitVec.isLt _), Nat.shiftLeft_eq]
  rfl

theorem syndrome_eq_zero {i : Image} (h : i.Sealed) : i.syndrome = 0 := by
  have hequal : checksum i.body = i.stamp := BitVec.eq_of_toNat_eq (by rw [h.checksum, toNat_stamp])
  rw [syndrome, hequal]
  exact BitVec.xor_self

/-- what other bits in one byte do to the syndrome -/
def footprint (n : Nat) (m : UInt8) : BitVec 16 :=
  if n < checksumOffset then shiftBit^[8 * (checksumOffset - n)] (m.toBitVec.setWidth 16)
  else if n = checksumOffset then m.toBitVec ++ 0#8
  else 0#8 ++ m.toBitVec

theorem body_xorByte (i : Image) (n : Nat) (m : UInt8) : (i.xorByte n m).body = i.body.modify n (· ^^^ m) :=
  List.take_modify ..

theorem stamp_xorByte_of_lt (i : Image) {n : Nat} (hn : n < checksumOffset) (m : UInt8) :
    (i.xorByte n m).stamp = i.stamp := by
  have hne : n ≠ checksumOffset := by omega
  have hne' : n ≠ checksumOffset + 1 := by omega
  rw [stamp, stamp, getD_xorByte i (by decide), getD_xorByte i (by decide), if_neg hne, if_neg hne']

theorem stamp_xorByte_of_le (i : Image) {n : Nat} (hle : checksumOffset ≤ n) (hn : n < size) (m : UInt8) :
    (i.xorByte n m).stamp = i.stamp ^^^ footprint n m := by
  rw [stamp, stamp, getD_xorByte i (by decide), getD_xorByte i (by decide), footprint, if_neg (Nat.not_lt.2 hle)]
  by_cases hfirst : n = checksumOffset
  · have hne : n ≠ checksumOffset + 1 := by omega
    rw [if_pos hfirst, if_pos hfirst, if_neg hne, UInt8.toBitVec_xor]
    exact (BitVec.xor_append.trans (by rw [BitVec.xor_zero])).symm
  · have hsecond : n = checksumOffset + 1 := by
      have : size = checksumOffset + 2 := rfl
      omega
    rw [if_neg hfirst, if_neg hfirst, if_pos hsecond, UInt8.toBitVec_xor]
    exact (BitVec.xor_append.trans (by rw [BitVec.xor_zero])).symm

/-- **One changed byte.** It adds its footprint to the syndrome. -/
theorem syndrome_xorByte (i : Image) {n : Nat} (hn : n < size) (m : UInt8) :
    (i.xorByte n m).syndrome = i.syndrome ^^^ footprint n m := by
  rw [syndrome, syndrome, body_xorByte]
  by_cases hbody : n < checksumOffset
  · rw [stamp_xorByte_of_lt i hbody, checksum_modify (by rwa [length_body]), length_body, footprint, if_pos hbody]
    ac_rfl
  · have hle := Nat.not_lt.1 hbody
    have hsame : i.body.modify n (· ^^^ m) = i.body := List.modify_eq_self (by rwa [length_body])
    rw [hsame, stamp_xorByte_of_le i hle hn, BitVec.xor_assoc]

/-- the exponent of the power that bit p adds to the syndrome when it is flipped -/
def exponent (p : Nat) : Nat :=
  if p < 8 * checksumOffset then 8 * (checksumOffset - p / 8) + (15 - p % 8)
  else if p < 8 * checksumOffset + 8 then 7 - p % 8
  else 15 - p % 8

theorem exponent_le (p : Nat) : exponent p ≤ 32767 := by
  have hoffset : checksumOffset = 4094 := rfl
  rw [exponent]
  split_ifs <;> omega

theorem exponent_inj {p q : Nat} (hp : p < 8 * size) (hq : q < 8 * size)
    (h : exponent p = exponent q) : p = q := by
  have hoffset : checksumOffset = 4094 := rfl
  have hsize : size = 4096 := rfl
  rw [exponent, exponent] at h
  split_ifs at h <;> omega

/-- only the first bit has the exponent at the far end of the period -/
theorem eq_zero_of_exponent {p : Nat} (h : exponent p = 32767) : p = 0 := by
  have hoffset : checksumOffset = 4094 := rfl
  rw [exponent] at h
  split_ifs at h <;> omega

theorem footprint_bit (p : Nat) : footprint (p / 8) (UInt8.ofNat (2 ^ (p % 8))) = power (exponent p) := by
  have hlow : ∀ b < 8, (UInt8.ofNat (2 ^ b)).toBitVec.setWidth 16 = power (15 - b) := by decide +kernel
  have hhigh : ∀ b < 8, (UInt8.ofNat (2 ^ b)).toBitVec ++ 0#8 = power (7 - b) := by decide +kernel
  have hpadded : ∀ b < 8, 0#8 ++ (UInt8.ofNat (2 ^ b)).toBitVec = power (15 - b) := by decide +kernel
  have hb : p % 8 < 8 := Nat.mod_lt _ (by omega)
  rw [footprint, exponent]
  by_cases hbody : p < 8 * checksumOffset
  · rw [if_pos hbody, if_pos (by omega), hlow _ hb, power, ← iterate_add_apply]
    rfl
  · rw [if_neg hbody, if_neg (by omega)]
    by_cases hfirst : p < 8 * checksumOffset + 8
    · rw [if_pos hfirst, if_pos (by omega), hhigh _ hb]
    · rw [if_neg hfirst, if_neg (by omega), hpadded _ hb]

/-- **One flipped bit.** It adds one power to the syndrome. -/
theorem syndrome_flip (i : Image) {p : Nat} (hp : p < 8 * size) :
    (i.flip p).syndrome = i.syndrome ^^^ power (exponent p) := by
  rw [flip, syndrome_xorByte i (by omega), footprint_bit]

/-- the syndrome after one more flipped bit -/
def addPower (r : BitVec 16) (p : Fin (8 * size)) : BitVec 16 := r ^^^ power (exponent p)

theorem syndrome_flipAll (places : List (Fin (8 * size))) (i : Image) :
    (i.flipAll places).syndrome = places.foldl addPower i.syndrome := by
  induction places generalizing i with
  | nil => rfl
  | cons p places ih =>
    rw [List.foldl_cons, addPower, ← syndrome_flip i p.isLt]
    exact ih (i.flip p)

/-! ## Two sealed images -/

section Sealed

variable {i j : Image}

/-- the powers of the bits in which two sealed images differ cancel out -/
theorem powers_cancel (hi : i.Sealed) (hj : j.Sealed) : (i.differences j).toList.foldl addPower 0 = 0 := by
  rw [← syndrome_eq_zero hi, ← syndrome_flipAll, flipAll_differences, syndrome_eq_zero hi, syndrome_eq_zero hj]

theorem parity_foldl_addPower (places : List (Fin (8 * size))) (r : BitVec 16) :
    parity (places.foldl addPower r) = (parity r ^^ decide (places.length % 2 = 1)) := by
  induction places generalizing r with
  | nil => simp
  | cons p places ih =>
    have hflip : (places.length + 1) % 2 = 1 ↔ ¬places.length % 2 = 1 := by omega
    rw [List.foldl_cons, ih, addPower, parity_xor, parity_power, List.length_cons]
    simp only [hflip]
    cases parity r <;> by_cases h : places.length % 2 = 1 <;> simp [h]

theorem Sealed.even_differences (hi : i.Sealed) (hj : j.Sealed) : Even (i.differences j).card := by
  have hparity := parity_foldl_addPower (i.differences j).toList 0
  have hzero : parity 0 = false := by decide
  rw [powers_cancel hi hj, hzero, Bool.false_xor, eq_comm, decide_eq_false_iff_not, Finset.length_toList] at hparity
  rw [Nat.even_iff]
  omega

theorem Sealed.bit_zero (hi : i.Sealed) : i.bit 0 = false := by
  have hfirst : i.bytes.getD 0 0 = (i.bytes.take 2).getD 0 0 := by
    rw [List.getD_eq_getElem?_getD, List.getD_eq_getElem?_getD, List.getElem?_take_of_lt (by decide)]
  rw [bit, hfirst, hi.magic]
  rfl

/-- two bits cancel out only at the two ends of the period, and at the far end are the magic letters -/
theorem Sealed.card_differences_ne_two (hi : i.Sealed) (hj : j.Sealed) : (i.differences j).card ≠ 2 := by
  intro htwo
  obtain ⟨p, q, hlist⟩ := List.length_eq_two.1 ((Finset.length_toList _).trans htwo)
  have hmem : ∀ {r}, r ∈ [p, q] → i.bit r ≠ j.bit r := by
    intro r hr
    rw [← hlist, Finset.mem_toList] at hr
    simpa [differences] using hr
  have hpq : p ≠ q := by
    have hnodup := Finset.nodup_toList (i.differences j)
    rw [hlist] at hnodup
    simpa using hnodup
  have hpower : power (exponent p) = power (exponent q) := by
    have hcancel := powers_cancel hi hj
    rw [hlist] at hcancel
    simpa [addPower, BitVec.xor_eq_zero_iff] using hcancel
  have hnever : ∀ {r}, r ∈ [p, q] → exponent r ≠ 32767 := by
    intro r hr hexp
    have hr0 : (r : Nat) = 0 := eq_zero_of_exponent hexp
    exact hmem hr (by rw [hr0, hi.bit_zero, hj.bit_zero])
  rcases Nat.lt_trichotomy (exponent p) (exponent q) with hlt | heq | hgt
  · exact hnever (by simp) (power_inj_of_lt hpower hlt (exponent_le q)).2
  · exact hpq (Fin.ext (exponent_inj p.isLt q.isLt heq))
  · exact hnever (by simp) (power_inj_of_lt hpower.symm hgt (exponent_le p)).2

/-- **The distance.** Two sealed images that are not the same differ in at least four bits. -/
theorem Sealed.four_le_card_differences (hi : i.Sealed) (hj : j.Sealed) (hne : j ≠ i) : 4 ≤ (i.differences j).card := by
  have hnonzero : (i.differences j).card ≠ 0 := by
    intro hzero
    have hsame := flipAll_differences i j
    rw [Finset.card_eq_zero.1 hzero, Finset.toList_empty] at hsame
    exact hne hsame.symm
  have htwo := hi.card_differences_ne_two hj
  obtain ⟨k, hk⟩ := hi.even_differences hj
  omega

/-- the register keeps sixteen bits in a row apart -/
theorem masks_eq_zero {n : Nat} (hn : n + 1 < checksumOffset) {m₁ m₂ : UInt8}
    (h : footprint n m₁ = footprint (n + 1) m₂) : m₁ = 0 ∧ m₂ = 0 := by
  have hwide : ∀ m : UInt8, (m.toBitVec.setWidth 16).toNat = m.toNat := fun m => by
    rw [BitVec.toNat_setWidth_of_le (by omega)]
    rfl
  have hlt : ∀ m : UInt8, m.toNat < 256 := UInt8.toNat_lt
  have hback : shiftBit^[8] (m₂.toBitVec.setWidth 16 <<< 8) = m₂.toBitVec.setWidth 16 :=
    iterate_shiftBit_shiftLeft (by rw [hwide]; have := hlt m₂; omega)
  have hsteps : 8 * (checksumOffset - n) = 8 * (checksumOffset - (n + 1)) + 8 := by omega
  rw [footprint, footprint, if_pos (by omega), if_pos hn, hsteps, iterate_add_apply, ← hback] at h
  have hequal := shiftBit_injective.iterate 8 (shiftBit_injective.iterate _ h)
  have hnumber := congrArg BitVec.toNat hequal
  rw [BitVec.toNat_shiftLeft, hwide, hwide, Nat.shiftLeft_eq] at hnumber
  have h₁ := hlt m₁
  have h₂ := hlt m₂
  exact ⟨UInt8.toNat_inj.1 (show m₁.toNat = 0 by omega), UInt8.toNat_inj.1 (show m₂.toNat = 0 by omega)⟩

/-- an image that agrees with another one outside of two neighbouring bytes is that one with these bytes changed -/
theorem exists_masks {n : Nat} (hsame : ∀ k, k ≠ n → k ≠ n + 1 → j.bytes[k]? = i.bytes[k]?) :
    ∃ m₁ m₂, (i.xorByte n m₁).xorByte (n + 1) m₂ = j := by
  have hmask : ∀ a b : UInt8, a ^^^ (a ^^^ b) = b := by
    intro a b
    rw [← UInt8.xor_assoc, UInt8.xor_self, UInt8.zero_xor]
  refine ⟨i.bytes.getD n 0 ^^^ j.bytes.getD n 0, i.bytes.getD (n + 1) 0 ^^^ j.bytes.getD (n + 1) 0, ?_⟩
  refine eq_of_bytes fun k hk => ?_
  rw [getD_xorByte _ hk, getD_xorByte _ hk]
  by_cases hfirst : n = k
  · subst hfirst
    rw [if_neg (by omega), if_pos rfl, hmask]
  · by_cases hsecond : n + 1 = k
    · subst hsecond
      rw [if_pos rfl, if_neg hfirst, hmask]
    · rw [if_neg hsecond, if_neg hfirst, List.getD_eq_getElem?_getD, List.getD_eq_getElem?_getD,
        hsame k (Ne.symm hfirst) (Ne.symm hsecond)]

/-- **Neighbours.** Sealed images that agree outside of two neighbouring bytes of the body are the same. -/
theorem Sealed.eq_of_neighbours (hi : i.Sealed) (hj : j.Sealed) {n : Nat} (hn : n + 1 < checksumOffset)
    (hsame : ∀ k, k ≠ n → k ≠ n + 1 → j.bytes[k]? = i.bytes[k]?) : j = i := by
  have hsize : checksumOffset < size := by decide
  obtain ⟨m₁, m₂, rfl⟩ := exists_masks hsame
  have hprints : footprint n m₁ ^^^ footprint (n + 1) m₂ = 0 := by
    have hzero := syndrome_eq_zero hj
    rw [syndrome_xorByte _ (by omega), syndrome_xorByte _ (by omega), syndrome_eq_zero hi] at hzero
    simpa using hzero
  obtain ⟨rfl, rfl⟩ := masks_eq_zero hn (BitVec.xor_eq_zero_iff.1 hprints)
  refine eq_of_bytes fun k hk => ?_
  rw [getD_xorByte _ hk, getD_xorByte _ hk, UInt8.xor_zero, UInt8.xor_zero, ite_self, ite_self]

end Sealed

/-- the two ends of the period: the first bit of an image and the highest one of its checksum -/
def endBits : List (Fin (8 * size)) := [⟨0, by decide⟩, ⟨8 * checksumOffset + 7, by decide⟩]

/-- the checksum does not tell an image from the one with both end bits flipped -/
theorem syndrome_flipAll_endBits (i : Image) : (i.flipAll endBits).syndrome = i.syndrome := by
  have hfar : power (exponent 0) = one := isPeriodicPt_one
  have hnear : power (exponent (8 * checksumOffset + 7)) = one := rfl
  rw [syndrome_flipAll, endBits, List.foldl_cons, List.foldl_cons, List.foldl_nil, addPower, addPower, hfar, hnear,
    BitVec.xor_assoc, BitVec.xor_self, BitVec.xor_zero]

/--
**Corruption is detected.** An image that differs from one without a fault has a fault itself if it differs in at most
three bits, wherever they are, or only within two neighbouring bytes in front of the checksum.
-/
theorem corruption_detected {i j : Image} (h : i.check = .ok ()) (hne : j ≠ i)
    (hfew : (i.differences j).card ≤ 3 ∨
      ∃ n, n + 1 < checksumOffset ∧ ∀ k, k ≠ n → k ≠ n + 1 → j.bytes[k]? = i.bytes[k]?) :
    j.check ≠ .ok () := by
  intro hok
  have hi := sealed_of_check h
  have hj := sealed_of_check hok
  rcases hfew with hbits | ⟨n, hn, hsame⟩
  · have hdistance := hi.four_le_card_differences hj hne
    omega
  · exact hne (hi.eq_of_neighbours hj hn hsame)

theorem room_nil : (recordBytes []).length + recordHeaderSize ≤ dataSize := by decide

/-- an image without records, as it is written -/
def blank : Image := ofRecords [] room_nil

theorem corruption_detected_endBits :
    (blank.check = .ok () ∧ blank.flipAll endBits ≠ blank ∧ (blank.differences (blank.flipAll endBits)).card ≤ 3) ∧
      (blank.flipAll endBits).check ≠ .ok () := by
  have hcheck : blank.check = .ok () := (holds_ofRecords (fun _ hr => absurd hr List.not_mem_nil) _).check_eq
  have hcard : (blank.differences (blank.flipAll endBits)).card = 2 := by
    rw [differences_flipAll (by decide)]
    rfl
  have hne : blank.flipAll endBits ≠ blank := by
    intro hsame
    rw [hsame] at hcard
    simp [differences] at hcard
  refine ⟨⟨hcheck, hne, by omega⟩, ?_⟩
  exact corruption_detected hcheck hne (.inl (by omega))

end FlightStore.Image
