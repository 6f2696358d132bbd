/-
Records read back.

A record is framed if it cannot be taken for the end of the list and its length fits into two bytes. Framed records are
read back one after the other, up to the zeros that end the list (`readAll_recordBytes`). An image that holds framed
records, zeros behind them and the right checksum has no fault (`Holds.check_eq`).
-/
import Mathlib.Data.List.GetD
import Mathlib.Tactic
import FlightStore.Image.Basic

namespace FlightStore.Image

/-! ## Numbers of two bytes -/

theorem ofBigEndian_bytes {n : Nat} (h : n < 65536) : ofBigEndian (UInt8.ofNat (n / 256)) (UInt8.ofNat n) = n := by
  have hhi : (UInt8.ofNat (n / 256)).toNat = n / 256 := by
    rw [UInt8.toNat_ofNat']
    omega
  have hlo : (UInt8.ofNat n).toNat = n % 256 := UInt8.toNat_ofNat'
  rw [ofBigEndian, hhi, hlo, Nat.div_add_mod']

@[simp] theorem length_bigEndian (n : Nat) : (bigEndian n).length = 2 := rfl

/-! ## One record -/

namespace Record

/-- a record that cannot be taken for the end of the list, with a length of two bytes -/
structure Framed (r : Record) : Prop where
  id_ne_zero : r.id ≠ 0
  length_lt : r.payload.length < 65536

@[simp] theorem length_head (id : UInt16) (version : UInt8) (n : Nat) : (head id version n).length = recordHeaderSize :=
  rfl

@[simp] theorem length_bytes (r : Record) : r.bytes.length = recordHeaderSize + r.payload.length := by
  rw [bytes, List.length_append, length_head]

/-- a framed record is read back, and the reader goes on behind it -/
theorem readAll_bytes_append {r : Record} (h : r.Framed) (rest : List UInt8) :
    readAll (r.bytes ++ rest) = (readAll rest).map (r :: ·) := by
  obtain ⟨id, version, payload⟩ := r
  obtain ⟨hid, hlength⟩ := h
  have hnumber : ofBigEndian (UInt8.ofNat (id.toNat / 256)) (UInt8.ofNat id.toNat) = id.toNat :=
    ofBigEndian_bytes id.toNat_lt
  have hne : id.toNat ≠ 0 := fun h0 => hid (UInt16.toNat_inj.1 h0)
  have hsize := ofBigEndian_bytes hlength
  have hfits : payload.length ≤ (payload ++ rest).length := by simp
  show readAll (_ :: _ :: version :: _ :: _ :: (payload ++ rest)) = _
  rw [readAll]
  dsimp only
  rw [hnumber, hsize, if_neg hne, if_pos hfits, List.take_left, List.drop_left, UInt16.ofNat_toNat]

/-- zeros end the list of records -/
theorem readAll_zeros {n : Nat} (h : recordHeaderSize ≤ n) : readAll (List.replicate n 0) = some [] := by
  obtain ⟨k, rfl⟩ := Nat.exists_eq_add_of_le' h
  show readAll (0 :: 0 :: 0 :: 0 :: 0 :: List.replicate k 0) = some []
  rw [readAll]
  exact if_pos rfl

end Record

/-! ## All records -/

theorem recordBytes_append (rs rs' : List Record) : recordBytes (rs ++ rs') = recordBytes rs ++ recordBytes rs' :=
  List.flatMap_append

theorem recordBytes_singleton (r : Record) : recordBytes [r] = r.bytes := List.flatMap_singleton _ _

/-- **Records read back.** Framed records with room for the end of the list behind them are read back in order. -/
theorem readAll_recordBytes {rs : List Record} (h : ∀ r ∈ rs, r.Framed) {n : Nat} (hn : recordHeaderSize ≤ n) :
    Record.readAll (recordBytes rs ++ List.replicate n 0) = some rs := by
  induction rs with
  | nil => exact Record.readAll_zeros hn
  | cons r rs ih =>
    have hrest := ih fun q hq => h q (List.mem_cons_of_mem r hq)
    have hsplit : recordBytes (r :: rs) ++ List.replicate n 0 = r.bytes ++ (recordBytes rs ++ List.replicate n 0) :=
      List.append_assoc _ _ _
    rw [hsplit, Record.readAll_bytes_append (h r List.mem_cons_self), hrest]
    rfl

/-! ## Images of records -/

/-- what stands in front of the checksum of an image of records: header, records and zeros -/
def recordBody (rs : List Record) : List UInt8 :=
  header ++ recordBytes rs ++ List.replicate (dataSize - (recordBytes rs).length) 0

/-- an image of framed records, with zeros behind them and the right checksum -/
structure Holds (i : Image) (rs : List Record) : Prop where
  framed : ∀ r ∈ rs, r.Framed
  room : (recordBytes rs).length + recordHeaderSize ≤ dataSize
  body : i.body = recordBody rs
  storedChecksum : i.storedChecksum = (checksum i.body).toNat

/-- the bytes in front of the checksum are those of the body -/
theorem getD_bytes (i : Image) {k : Nat} (hk : k < checksumOffset) : i.bytes.getD k 0 = i.body.getD k 0 := by
  rw [body, List.getD_eq_getElem?_getD, List.getD_eq_getElem?_getD, List.getElem?_take_of_lt hk]

/-- the number in the last two bytes -/
theorem storedChecksum_of_bytes {i : Image} {front : List UInt8} {n : Nat} (hi : i.bytes = front ++ bigEndian n)
    (hfront : front.length = checksumOffset) (hn : n < 65536) : i.storedChecksum = n := by
  have hhi : i.bytes.getD checksumOffset 0 = UInt8.ofNat (n / 256) := by
    rw [hi, ← hfront, List.getD_append_right _ _ _ _ (Nat.le_refl _), Nat.sub_self]
    rfl
  have hlo : i.bytes.getD (checksumOffset + 1) 0 = UInt8.ofNat n := by
    rw [hi, ← hfront, List.getD_append_right _ _ _ _ (Nat.le_add_right _ 1), Nat.add_sub_cancel_left]
    rfl
  rw [storedChecksum, hhi, hlo, ofBigEndian_bytes hn]

theorem length_recordBody {rs : List Record} (h : (recordBytes rs).length ≤ dataSize) :
    (recordBody rs).length = checksumOffset := by
  have hheader : header.length = headerSize := rfl
  have hsize : dataSize + headerSize = checksumOffset := by decide
  rw [recordBody, List.length_append, List.length_append, List.length_replicate, hheader]
  omega

/-- header, records, zeros and their checksum make an image of records -/
theorem holds_of_bytes {i : Image} {rs : List Record} (hframed : ∀ r ∈ rs, r.Framed)
    (hroom : (recordBytes rs).length + recordHeaderSize ≤ dataSize)
    (hi : i.bytes = recordBody rs ++ bigEndian (checksum (recordBody rs)).toNat) : i.Holds rs := by
  have hlength : (recordBody rs).length = checksumOffset := length_recordBody (by omega)
  have hbody : i.body = recordBody rs := by rw [body, hi, List.take_left' hlength]
  refine ⟨hframed, hroom, hbody, ?_⟩
  rw [storedChecksum_of_bytes hi hlength (checksum (recordBody rs)).isLt, hbody]

/-- the image of records that leave room for the end of their list -/
def ofRecords (rs : List Record) (hroom : (recordBytes rs).length + recordHeaderSize ≤ dataSize) : Image where
  bytes := recordBody rs ++ bigEndian (checksum (recordBody rs)).toNat
  length_eq := by
    rw [List.length_append, length_recordBody (by omega), length_bigEndian]
    rfl

theorem holds_ofRecords {rs : List Record} (hframed : ∀ r ∈ rs, r.Framed)
    (hroom : (recordBytes rs).length + recordHeaderSize ≤ dataSize) : (ofRecords rs hroom).Holds rs :=
  holds_of_bytes hframed hroom rfl

theorem take_two_bytes (i : Image) : i.bytes.take 2 = i.body.take 2 := by
  rw [body, List.take_take]
  rfl

/-- an image with the right letters, version and checksum -/
structure Sealed (i : Image) : Prop where
  magic : i.bytes.take 2 = magic
  version : i.bytes.getD 2 0 = formatVersion
  checksum : (checksum i.body).toNat = i.storedChecksum

/-- a sealed image is without a fault if there is an end of its records -/
theorem Sealed.check_eq {i : Image} (h : i.Sealed) :
    i.check = if i.records? = none then .error .truncated else .ok () := by
  rw [check, if_neg (not_not.2 h.magic), if_neg (not_not.2 h.version), if_neg (not_not.2 h.checksum)]

theorem sealed_of_check {i : Image} (h : i.check = .ok ()) : i.Sealed := by
  unfold check at h
  split_ifs at h with hmagic hversion hchecksum
  exact ⟨not_not.1 hmagic, not_not.1 hversion, not_not.1 hchecksum⟩

theorem records_of_check {i : Image} (h : i.check = .ok ()) : ∃ rs, i.records? = some rs := by
  unfold check at h
  split_ifs at h with _ _ _ hrecords
  exact Option.ne_none_iff_exists'.1 hrecords

namespace Holds

variable {i : Image} {rs : List Record}

theorem records_eq (h : i.Holds rs) : i.records? = some rs := by
  obtain ⟨hframed, hroom, hbody, -⟩ := h
  have hzeros : recordHeaderSize ≤ dataSize - (recordBytes rs).length := by omega
  have hdata : i.data = recordBytes rs ++ List.replicate (dataSize - (recordBytes rs).length) 0 := by
    rw [data, hbody, recordBody, List.append_assoc]
    rfl
  rw [records?, hdata]
  exact readAll_recordBytes hframed hzeros

theorem isSealed (h : i.Holds rs) : i.Sealed where
  magic := by
    rw [take_two_bytes, h.body]
    rfl
  version := by
    rw [getD_bytes i (by decide), h.body]
    rfl
  checksum := h.storedChecksum.symm

/-- an image of records has no fault -/
theorem check_eq (h : i.Holds rs) : i.check = .ok () := by
  rw [h.isSealed.check_eq, h.records_eq]
  rfl

end Holds
end FlightStore.Image
