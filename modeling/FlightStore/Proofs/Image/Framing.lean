/-
The grammar of records in an image, and the cursor that reads it.

Data is framed by a list of records if it starts with their bytes and the number zero, with room for a whole header at
that number (`Frames`). Reading finds exactly these lists: what is read frames the data, and a list that frames the data
is what is read (`readAll_eq_some_iff`), so at most one does. Sealed images, those with the right letters, version and
checksum, are therefore without a fault exactly if a list of records frames their data.

A cursor walks through the data and yields one record after the other, or a fault where bytes are missing. It comes to
an end on any data, having yielded the records of the list, or records and a fault if there is no list
(`yields_readAll`).
-/
import FlightStore.Proofs.Image.Records

namespace FlightStore.Image

variable {data : List UInt8} {rs : List Record}

/-! ## Framed data -/

theorem bigEndian_ofBigEndian (hi lo : UInt8) : bigEndian (ofBigEndian hi lo) = [hi, lo] := by
  have hlo : lo.toNat < 256 := lo.toNat_lt
  have hquotient : (hi.toNat * 256 + lo.toNat) / 256 = hi.toNat := by omega
  have hremainder : UInt8.ofNat (hi.toNat * 256 + lo.toNat) = lo := by
    apply UInt8.toNat_inj.1
    rw [UInt8.toNat_ofNat']
    omega
  rw [bigEndian, ofBigEndian, hquotient, hremainder, UInt8.ofNat_toNat]

theorem bigEndian_zero : bigEndian 0 = [0, 0] := rfl

theorem ofBigEndian_lt (hi lo : UInt8) : ofBigEndian hi lo < 65536 := by
  have hhi : hi.toNat < 256 := hi.toNat_lt
  have hlo : lo.toNat < 256 := lo.toNat_lt
  unfold ofBigEndian
  omega

theorem length_recordBytes (rs : List Record) : (recordBytes rs).length = (rs.map Record.size).sum := by
  rw [recordBytes, List.length_flatMap]
  exact congrArg List.sum (List.map_congr_left fun r _ => Record.length_bytes r)

/-- the data starts with these records and the number zero, and a whole header fits behind them -/
structure Frames (rs : List Record) (data : List UInt8) : Prop where
  id_ne_zero : ∀ r ∈ rs, r.id ≠ 0
  room : (rs.map Record.size).sum + recordHeaderSize ≤ data.length
  starts : recordBytes rs ++ [0, 0] <+: data

namespace Record

/-- the record that stands behind a number other than zero, cut off the data -/
theorem bytes_of_header (i₁ i₂ version : UInt8) {l₁ l₂ : UInt8} {rest : List UInt8}
    (hfits : ofBigEndian l₁ l₂ ≤ rest.length) :
    (⟨UInt16.ofNat (ofBigEndian i₁ i₂), version, rest.take (ofBigEndian l₁ l₂)⟩ : Record).bytes =
      i₁ :: i₂ :: version :: l₁ :: l₂ :: rest.take (ofBigEndian l₁ l₂) := by
  have hid : (UInt16.ofNat (ofBigEndian i₁ i₂)).toNat = ofBigEndian i₁ i₂ :=
    UInt16.toNat_ofNat_of_lt (ofBigEndian_lt i₁ i₂)
  have hlength : (rest.take (ofBigEndian l₁ l₂)).length = ofBigEndian l₁ l₂ := List.length_take_of_le hfits
  simp only [bytes, head, hid, hlength, bigEndian_ofBigEndian]
  rfl

/-- what is read frames the data -/
theorem frames_of_readAll (data : List UInt8) (rs : List Record) (h : readAll data = some rs) : Frames rs data := by
  fun_induction readAll data generalizing rs with
  | case1 i₁ i₂ version l₁ l₂ rest id hzero =>
    obtain rfl : [] = rs := Option.some.inj h
    have hbytes : [i₁, i₂] = [0, 0] := by
      rw [← bigEndian_ofBigEndian i₁ i₂, show ofBigEndian i₁ i₂ = 0 from hzero, bigEndian_zero]
    refine ⟨by simp, by simp [recordHeaderSize], ?_⟩
    show [0, 0] <+: [i₁, i₂] ++ version :: l₁ :: l₂ :: rest
    rw [hbytes]
    exact List.prefix_append _ _
  | case2 i₁ i₂ version l₁ l₂ rest id length hid hfits ih =>
    obtain ⟨tail, htail, rfl⟩ := Option.map_eq_some_iff.1 h
    obtain ⟨hne, hroom, behind, hbehind⟩ := ih tail htail
    have hbytes := bytes_of_header i₁ i₂ version hfits
    set r : Record := ⟨UInt16.ofNat id, version, rest.take length⟩
    have hsize : r.size = recordHeaderSize + length :=
      congrArg (recordHeaderSize + ·) (List.length_take_of_le hfits)
    have hnumber : r.id ≠ 0 := fun hzero => hid <| by
      rw [← UInt16.toNat_ofNat_of_lt (show id < 65536 from ofBigEndian_lt i₁ i₂)]
      exact congrArg UInt16.toNat hzero
    refine ⟨List.forall_mem_cons.2 ⟨hnumber, hne⟩, ?_, behind, ?_⟩
    · rw [List.map_cons, List.sum_cons, hsize]
      simp only [List.length_drop, List.length_cons, recordHeaderSize] at hroom ⊢
      omega
    · calc recordBytes (r :: tail) ++ [0, 0] ++ behind = r.bytes ++ (recordBytes tail ++ [0, 0] ++ behind) := by
            simp only [recordBytes, List.flatMap_cons, List.append_assoc]
        _ = i₁ :: i₂ :: version :: l₁ :: l₂ :: (rest.take length ++ rest.drop length) := by
            rw [hbytes, hbehind]
            rfl
        _ = i₁ :: i₂ :: version :: l₁ :: l₂ :: rest := by rw [List.take_append_drop]
  | case3 i₁ i₂ version l₁ l₂ rest id length hid hlong => cases h
  | case4 data hshort => cases h

/-- the number zero ends the list, if a whole header fits there -/
theorem readAll_end {rest : List UInt8} (h : recordHeaderSize ≤ ([0, 0] ++ rest).length) :
    readAll ([0, 0] ++ rest) = some [] := by
  match rest, h with
  | version :: l₁ :: l₂ :: rest, _ =>
    show readAll (0 :: 0 :: version :: l₁ :: l₂ :: rest) = some []
    rw [readAll]
    exact if_pos rfl

/-- a list that frames the data is what is read, as far as its payloads have lengths of two bytes -/
theorem readAll_of_frames {rest : List UInt8} (hframed : ∀ r ∈ rs, r.Framed)
    (hroom : recordHeaderSize ≤ ([0, 0] ++ rest).length) :
    readAll (recordBytes rs ++ ([0, 0] ++ rest)) = some rs := by
  induction rs with
  | nil => exact readAll_end hroom
  | cons r rs ih =>
    have hrest := ih fun q hq => hframed q (List.mem_cons_of_mem r hq)
    show readAll ((r.bytes ++ recordBytes rs) ++ ([0, 0] ++ rest)) = _
    rw [List.append_assoc, readAll_bytes_append (hframed r List.mem_cons_self), hrest]
    rfl

end Record

/-- records in data of less than 65536 bytes have payloads whose length takes two bytes -/
theorem Frames.framed (h : Frames rs data) (hdata : data.length < 65536) : ∀ r ∈ rs, r.Framed := by
  intro r hr
  have hsize : recordHeaderSize + r.payload.length ≤ (rs.map Record.size).sum :=
    List.le_sum_of_mem (List.mem_map_of_mem (f := Record.size) hr)
  have hroom := h.room
  exact ⟨h.id_ne_zero r hr, by omega⟩

/-- **Reading finds what frames the data.** A list of records is read from data exactly if it frames the data. -/
theorem readAll_eq_some_iff (hdata : data.length < 65536) : Record.readAll data = some rs ↔ Frames rs data := by
  refine ⟨Record.frames_of_readAll data rs, fun h => ?_⟩
  have hframed := h.framed hdata
  obtain ⟨-, hroom, rest, rfl⟩ := h
  rw [List.append_assoc] at hroom ⊢
  refine Record.readAll_of_frames hframed ?_
  rw [List.length_append, length_recordBytes] at hroom
  omega

/-! ## The cursor -/

/-- a place in data from which records are read on -/
structure Cursor where
  offset : Nat := 0
  /-- nothing is left to be read -/
  done : Bool := false

namespace Cursor

/-- so many bytes from a place on, if the data has them -/
def slice? (data : List UInt8) (place length : Nat) : Option (List UInt8) :=
  if place + length ≤ data.length then some ((data.drop place).take length) else none

/-- what a cursor yields, and the cursor behind it: a record, a fault if bytes are missing, or nothing at the end -/
def next (data : List UInt8) (c : Cursor) : Option (Except Unit Record) × Cursor :=
  if c.done then (none, c)
  else
    match slice? data c.offset recordHeaderSize with
    | none => (some (.error ()), { c with done := true })
    | some header =>
      let id := ofBigEndian (header.getD 0 0) (header.getD 1 0)
      if id = 0 then (none, { c with done := true })
      else
        let length := ofBigEndian (header.getD 3 0) (header.getD 4 0)
        let start := c.offset + recordHeaderSize
        match slice? data start length with
        | none => (some (.error ()), { c with done := true })
        | some payload => (some (.ok ⟨UInt16.ofNat id, header.getD 2 0, payload⟩), { c with offset := start + length })

/-- what a cursor yields one after the other, until it yields nothing -/
inductive Yields (data : List UInt8) : Cursor → List (Except Unit Record) → Prop where
  | stop {c c' : Cursor} (h : c.next data = (none, c')) : Yields data c []
  | item {c c' : Cursor} {x : Except Unit Record} {xs : List (Except Unit Record)}
      (h : c.next data = (some x, c')) (h' : Yields data c' xs) : Yields data c (x :: xs)

theorem Yields.unique {c : Cursor} {xs ys : List (Except Unit Record)} (hx : Yields data c xs) (hy : Yields data c ys) :
    xs = ys := by
  induction hx generalizing ys with
  | stop h =>
    cases hy with
    | stop _ => rfl
    | item h' _ => rw [h] at h'; cases h'
  | item h _ ih =>
    cases hy with
    | stop h' => rw [h] at h'; cases h'
    | item h' hrest =>
      rw [h] at h'
      cases h'
      rw [ih hrest]

/-- a cursor that is done yields nothing -/
theorem yields_done (data : List UInt8) (offset : Nat) : Yields data ⟨offset, true⟩ [] := .stop rfl

/-- a fault is the last that a cursor yields -/
theorem yields_fault {c : Cursor} (h : c.next data = (some (.error ()), { c with done := true })) :
    Yields data c [.error ()] :=
  .item h (yields_done data c.offset)

/-- what is cut out where the data is known -/
theorem slice?_of_drop {place : Nat} {left : List UInt8} (h : data.drop place = left) (hplace : place ≤ data.length)
    (length : Nat) :
    slice? data place length = if length ≤ left.length then some (left.take length) else none := by
  have hlength : left.length = data.length - place := by rw [← h, List.length_drop]
  have hfits : place + length ≤ data.length ↔ length ≤ left.length := by omega
  simp only [slice?, hfits, h]

/-- a cursor at a whole header -/
theorem next_of_header {offset : Nat} {i₁ i₂ version l₁ l₂ : UInt8} {rest : List UInt8}
    (hleft : data.drop offset = i₁ :: i₂ :: version :: l₁ :: l₂ :: rest) :
    next data ⟨offset, false⟩ =
      if ofBigEndian i₁ i₂ = 0 then (none, ⟨offset, true⟩)
      else if ofBigEndian l₁ l₂ ≤ rest.length then
        (some (.ok ⟨UInt16.ofNat (ofBigEndian i₁ i₂), version, rest.take (ofBigEndian l₁ l₂)⟩),
          ⟨offset + recordHeaderSize + ofBigEndian l₁ l₂, false⟩)
      else (some (.error ()), ⟨offset, true⟩) := by
  have hlength := congrArg List.length hleft
  simp only [List.length_drop, List.length_cons] at hlength
  have hheader : slice? data offset recordHeaderSize = some [i₁, i₂, version, l₁, l₂] :=
    (slice?_of_drop hleft (by omega) _).trans (if_pos (by simp [recordHeaderSize]))
  have hrest : data.drop (offset + recordHeaderSize) = rest := by
    rw [← List.drop_drop, hleft]
    rfl
  have hpayload := slice?_of_drop hrest (by unfold recordHeaderSize; omega) (ofBigEndian l₁ l₂)
  simp only [next, hheader]
  show (if ofBigEndian i₁ i₂ = 0 then _ else match slice? data (offset + recordHeaderSize) (ofBigEndian l₁ l₂) with
    | none => _
    | some payload => _) = _
  rw [hpayload]
  split_ifs <;> rfl

/-- a cursor where a whole header does not fit -/
theorem next_of_short {offset : Nat} (hshort : data.length < offset + recordHeaderSize) :
    next data ⟨offset, false⟩ = (some (.error ()), ⟨offset, true⟩) := by
  have hheader : slice? data offset recordHeaderSize = none := if_neg (by omega)
  simp only [next, hheader]
  rfl

/-- **A cursor comes to an end.** On any data it yields the records that are read, or, if none can be read, some records
and a fault. -/
theorem yields_readAll (data left : List UInt8) (offset : Nat) (hleft : data.drop offset = left) :
    ∃ rs, (Record.readAll left = some rs ∧ Yields data ⟨offset, false⟩ (rs.map .ok)) ∨
      (Record.readAll left = none ∧ Yields data ⟨offset, false⟩ (rs.map .ok ++ [.error ()])) := by
  fun_induction Record.readAll left generalizing offset with
  | case1 i₁ i₂ version l₁ l₂ rest id hzero =>
    have hnext := (next_of_header hleft).trans (if_pos hzero)
    exact ⟨[], Or.inl ⟨rfl, .stop hnext⟩⟩
  | case2 i₁ i₂ version l₁ l₂ rest id length hid hfits ih =>
    have hnext := ((next_of_header hleft).trans (if_neg hid)).trans (if_pos hfits)
    have hbehind : data.drop (offset + recordHeaderSize + length) = rest.drop length := by
      rw [← List.drop_drop, ← List.drop_drop, hleft]
      rfl
    obtain ⟨rs, ⟨hread, hyields⟩ | ⟨hread, hyields⟩⟩ := ih _ hbehind
    · exact ⟨_ :: rs, Or.inl ⟨by rw [hread]; rfl, .item hnext hyields⟩⟩
    · exact ⟨_ :: rs, Or.inr ⟨by rw [hread]; rfl, .item hnext hyields⟩⟩
  | case3 i₁ i₂ version l₁ l₂ rest id length hid hlong =>
    have hnext := ((next_of_header hleft).trans (if_neg hid)).trans (if_neg hlong)
    exact ⟨[], Or.inr ⟨rfl, yields_fault hnext⟩⟩
  | case4 left hshort =>
    have hmissing : left.length < recordHeaderSize := by
      by_contra hlong
      match left, hlong with
      | i₁ :: i₂ :: version :: l₁ :: l₂ :: rest, _ => exact hshort i₁ i₂ version l₁ l₂ rest rfl
      | [], hlong | [_], hlong | [_, _], hlong | [_, _, _], hlong | [_, _, _, _], hlong =>
        simp [recordHeaderSize] at hlong
    rw [← hleft, List.length_drop] at hmissing
    exact ⟨[], Or.inr ⟨rfl, yields_fault (next_of_short (by omega))⟩⟩

end Cursor

/-! ## Images -/

theorem length_body (i : Image) : i.body.length = checksumOffset := by
  rw [body, List.length_take_of_le]
  rw [i.length_eq]
  decide

theorem length_data (i : Image) : i.data.length = dataSize := by
  rw [data, List.length_drop, length_body]
  rfl

/-- the records of an image are those that frame its data -/
theorem records?_eq_some_iff (i : Image) {rs : List Record} : i.records? = some rs ↔ Frames rs i.data := by
  have hsize : i.data.length < 65536 := by
    rw [length_data]
    decide
  exact readAll_eq_some_iff hsize

/-- where a list frames the data of an image, a cursor yields it -/
theorem yields_of_frames {i : Image} {rs : List Record} (h : Frames rs i.data) :
    Cursor.Yields i.data {} (rs.map .ok) := by
  have hread : Record.readAll i.data = some rs := (records?_eq_some_iff i).2 h
  obtain ⟨rs', ⟨hread', hyields⟩ | ⟨hnone, -⟩⟩ := Cursor.yields_readAll i.data i.data 0 rfl
  · rw [hread] at hread'
    obtain rfl : rs = rs' := Option.some.inj hread'
    exact hyields
  · rw [hread] at hnone
    cases hnone

/-- a cursor comes to an end on every image, and yields one list of items only -/
theorem existsUnique_yields (i : Image) : ∃! items, Cursor.Yields i.data {} items := by
  obtain ⟨rs, ⟨-, hyields⟩ | ⟨-, hyields⟩⟩ := Cursor.yields_readAll i.data i.data 0 rfl
  · exact ⟨_, hyields, fun _ h => h.unique hyields⟩
  · exact ⟨_, hyields, fun _ h => h.unique hyields⟩

/-- header, any reserved byte, records, zeros and their checksum -/
def imageBytes (reserved : UInt8) (rs : List Record) : List UInt8 :=
  let front := magic ++ formatVersion :: reserved ::
    (recordBytes rs ++ List.replicate (dataSize - (recordBytes rs).length) 0)
  front ++ bigEndian (checksum front).toNat

/-- there is an image of these bytes if the records leave room for the end of their list; it is sealed, and the records
frame its data -/
theorem exists_imageBytes (reserved : UInt8) {rs : List Record} (hid : ∀ r ∈ rs, r.id ≠ 0)
    (hroom : (rs.map Record.size).sum + recordHeaderSize ≤ dataSize) :
    ∃ i : Image, i.bytes = imageBytes reserved rs ∧ i.Sealed ∧ Frames rs i.data := by
  rw [← length_recordBytes] at hroom
  obtain ⟨k, hk⟩ := Nat.exists_eq_add_of_le hroom
  have hzeros : dataSize - (recordBytes rs).length = 2 + (3 + k) := by
    unfold recordHeaderSize at hk
    omega
  set rest := recordBytes rs ++ List.replicate (dataSize - (recordBytes rs).length) 0 with hrest
  set front := magic ++ formatVersion :: reserved :: rest with hfront
  have hlength : front.length = checksumOffset := by
    have hmagic : magic.length = 2 := rfl
    have hsizes : dataSize + 4 = checksumOffset := by decide
    rw [hfront, hrest, List.length_append, List.length_cons, List.length_cons, List.length_append,
      List.length_replicate]
    omega
  have hsize : (front ++ bigEndian (checksum front).toNat).length = size := by
    rw [List.length_append, hlength, length_bigEndian]
    rfl
  set i : Image := ⟨front ++ bigEndian (checksum front).toNat, hsize⟩
  have hbody : i.body = front := List.take_left' hlength
  have hdata : i.data = rest := by
    rw [data, hbody]
    rfl
  refine ⟨i, rfl, ⟨rfl, rfl, ?_⟩, hid, ?_, ?_⟩
  · rw [hbody, storedChecksum_of_bytes (i := i) rfl hlength (BitVec.isLt _)]
  · rwa [length_data, ← length_recordBytes]
  · rw [hdata, hrest, hzeros, List.replicate_add, ← List.append_assoc]
    exact List.prefix_append _ _

/-- **Records are framed exactly.** Records that leave room for the end of their list, written behind a header and with
zeros and the checksum behind them, make an image without a fault, and a cursor yields just these records. Conversely,
one list of records frames the data of an image without a fault, and a cursor yields it. A sealed image whose data no
list frames is truncated. On every image a cursor comes to an end. -/
theorem framing_exact :
    (∀ (reserved : UInt8) (rs : List Record), (∀ r ∈ rs, r.id ≠ 0) →
      (rs.map Record.size).sum + recordHeaderSize ≤ dataSize →
      ∃ i : Image, i.bytes = imageBytes reserved rs ∧ i.check = .ok () ∧ Cursor.Yields i.data {} (rs.map .ok)) ∧
    ∀ i : Image,
      (i.check = .ok () → ∃ rs, Frames rs i.data ∧ (∀ rs', Frames rs' i.data → rs' = rs) ∧
        Cursor.Yields i.data {} (rs.map .ok)) ∧
      (i.Sealed → (¬ ∃ rs, Frames rs i.data) → i.check = .error .truncated) ∧
      ∃! items, Cursor.Yields i.data {} items := by
  refine ⟨fun reserved rs hid hroom => ?_, fun i => ⟨fun hcheck => ?_, fun hsealed hnone => ?_, existsUnique_yields i⟩⟩
  · obtain ⟨i, hi, hsealed, hframes⟩ := exists_imageBytes reserved hid hroom
    have hcheck : i.check = .ok () := by
      rw [hsealed.check_eq, (records?_eq_some_iff i).2 hframes]
      rfl
    exact ⟨i, hi, hcheck, yields_of_frames hframes⟩
  · obtain ⟨rs, hrs⟩ := records_of_check hcheck
    have hframes := (records?_eq_some_iff i).1 hrs
    refine ⟨rs, hframes, fun rs' hframes' => ?_, yields_of_frames hframes⟩
    exact Option.some.inj (((records?_eq_some_iff i).2 hframes').symm.trans hrs)
  · have hrecords : i.records? = none := by
      refine Option.eq_none_iff_forall_ne_some.2 fun rs hrs => ?_
      exact hnone ⟨rs, (records?_eq_some_iff i).1 hrs⟩
    rw [hsealed.check_eq, if_pos hrecords]

end FlightStore.Image
