/-
The encoder fills a buffer with the records of all groups.

`Draft.Holds` is what holds between two groups: header, records so far and zeros. Writing a group keeps it as long as
there is room (`add_holds`), so a run over groups keeps it (`run_holds`). The largest sizes of the groups sum up to far
less than the room of an image, so that encoding never fails and leaves an image of the records of all groups, whatever
the buffer held (`encode_holds`).
-/
import FlightStore.Image.Settings
import FlightStore.Proofs.Image.Records
import FlightStore.Proofs.Settings.Parts
import FlightStore.Proofs.Settings.Stored

namespace FlightStore.Image

open FlightStore.Wire

/-- the record of a group -/
def recordOf (s : Settings) (g : GroupId) : Record := ⟨g.number, g.group.version, g.part.payload s⟩

theorem ok_bind {ε α β : Type} (a : α) (f : α → Except ε β) : Except.ok a >>= f = f a := rfl

/-! ## Writing into a buffer -/

theorem fill_bytes (i : Image) (b : UInt8) : (i.fill b).bytes = List.replicate size b := by
  have hmap : i.bytes.map (fun _ => b) = List.replicate i.bytes.length b := List.map_const' ..
  rwa [i.length_eq] at hmap

/-- bytes in the middle of an image are replaced by as many others -/
theorem patch_middle {i : Image} {front old new rest : List UInt8} {place : Nat}
    (hi : i.bytes = front ++ old ++ rest) (hplace : front.length = place) (hold : old.length = new.length) :
    ∃ j, i.patch place new = .ok j ∧ j.bytes = front ++ new ++ rest := by
  have hsize : front.length + old.length + rest.length = size := by
    rw [← i.length_eq, hi, List.length_append, List.length_append]
  have hfits : place + new.length ≤ size := by omega
  have htake : i.bytes.take place = front := by
    rw [hi, List.append_assoc, List.take_left' hplace]
  have hdrop : i.bytes.drop (place + new.length) = rest := by
    rw [hi, List.drop_left' (by rw [List.length_append, hplace, hold])]
  have hlength : (front ++ new ++ rest).length = size := by
    rw [List.length_append, List.length_append]
    omega
  refine ⟨⟨front ++ new ++ rest, hlength⟩, ?_, rfl⟩
  simp only [patch, patch?, dif_pos hfits, htake, hdrop]
  rfl

/-- a payload is written before the header in front of it -/
theorem patch_record {i : Image} {front head payload rest : List UInt8} {place : Nat}
    (hi : i.bytes = front ++ List.replicate (head.length + payload.length) 0 ++ rest) (hplace : front.length = place) :
    ∃ j k, i.patch (place + head.length) payload = .ok j ∧ j.patch place head = .ok k ∧
      k.bytes = front ++ (head ++ payload) ++ rest := by
  set zeros : Nat → List UInt8 := fun n => List.replicate n 0 with hzeros
  have hlength : ∀ n, (zeros n).length = n := fun n => List.length_replicate
  have hsplit : i.bytes = front ++ zeros head.length ++ zeros payload.length ++ rest := by
    rw [hi, List.replicate_add, ← List.append_assoc]
  obtain ⟨j, hj, hjbytes⟩ := patch_middle hsplit
    (by rw [List.length_append, hplace, hlength] : (front ++ zeros head.length).length = place + head.length)
    (hlength payload.length)
  rw [List.append_assoc] at hjbytes
  obtain ⟨k, hk, hkbytes⟩ := patch_middle hjbytes hplace (hlength head.length)
  refine ⟨j, k, hj, hk, ?_⟩
  rw [hkbytes]
  simp only [List.append_assoc]

namespace Draft

variable {d : Draft} {rs : List Record} {s : Settings}

/-- header, records so far and zeros behind them -/
structure Holds (d : Draft) (rs : List Record) : Prop where
  offset : d.offset = headerSize + (recordBytes rs).length
  bytes : d.image.bytes = header ++ recordBytes rs ++ List.replicate (size - d.offset) 0

/-- a group is written behind the records so far, if there is room for its record and for the end of the list -/
theorem add_holds {g : GroupId} (hd : d.Holds rs)
    (hroom : (recordBytes rs).length + (recordOf s g).bytes.length + recordHeaderSize ≤ dataSize) :
    ∃ d', d.add s g.group = .ok d' ∧ d'.Holds (rs ++ [recordOf s g]) := by
  obtain ⟨hoffset, hbytes⟩ := hd
  set payload := g.part.payload s with hpayload
  set head := Record.head g.number g.group.version payload.length with hhead
  have hrecord : (recordOf s g).bytes = head ++ payload := rfl
  have hheadLength : head.length = recordHeaderSize := rfl
  have hsizes : dataSize + headerSize = checksumOffset ∧ checksumOffset ≤ size := by decide
  rw [hrecord, List.length_append] at hroom
  have hlow : ¬ checksumOffset - recordHeaderSize < d.offset + recordHeaderSize := by omega
  have hencode : (g.group.encode (checksumOffset - recordHeaderSize - (d.offset + recordHeaderSize)) s).mapError
      EncodeError.ofWire = .ok payload := by
    have hfits : payload.length ≤ checksumOffset - recordHeaderSize - (d.offset + recordHeaderSize) := by omega
    rw [g.encode_eq, Codec.putInto]
    exact congrArg (Except.mapError EncodeError.ofWire) (if_pos hfits)
  -- the zeros behind the records have room for this one
  obtain ⟨rest, hrest⟩ : ∃ rest, size - d.offset = head.length + payload.length + rest :=
    Nat.exists_eq_add_of_le (by omega)
  have hfront : (header ++ recordBytes rs).length = d.offset := by
    rw [List.length_append, hoffset]
    rfl
  rw [hrest, List.replicate_add, ← List.append_assoc] at hbytes
  obtain ⟨j, k, hj, hk, hkbytes⟩ := patch_record hbytes hfront
  refine ⟨⟨k, d.offset + recordHeaderSize + payload.length⟩, ?_, ?_, ?_⟩
  · rw [hheadLength] at hj
    simp only [add, if_neg hlow, hencode, ok_bind, hj, g.group_id]
    rw [← hhead, hk, ok_bind]
    rfl
  · rw [recordBytes_append, recordBytes_singleton, hrecord, List.length_append, List.length_append]
    dsimp only
    omega
  · have hleft : size - (d.offset + recordHeaderSize + payload.length) = rest := by omega
    rw [recordBytes_append, recordBytes_singleton, hrecord]
    dsimp only
    rw [hkbytes, hleft]
    simp only [List.append_assoc]

/-- **Groups are written one after the other.** As long as there is room for all of them, a run over groups ends with
their records behind those from before. -/
theorem run_holds (ids : List GroupId) :
    ∀ (d : Draft) (rs : List Record), d.Holds rs →
      (recordBytes (rs ++ ids.map (recordOf s))).length + recordHeaderSize ≤ dataSize →
      ∃ d', (ids.map GroupId.group).foldlM (Draft.add s) d = .ok d' ∧ d'.Holds (rs ++ ids.map (recordOf s)) := by
  induction ids with
  | nil =>
    intro d rs hd _
    refine ⟨d, rfl, ?_⟩
    rwa [List.map_nil, List.append_nil]
  | cons g ids ih =>
    intro d rs hd hroom
    rw [List.map_cons (f := recordOf s), List.append_cons] at hroom ⊢
    have hfits : (recordBytes rs).length + (recordOf s g).bytes.length + recordHeaderSize ≤ dataSize := by
      rw [recordBytes_append, recordBytes_append, recordBytes_singleton, List.length_append, List.length_append] at hroom
      omega
    obtain ⟨next, hadd, hnext⟩ := add_holds hd hfits
    obtain ⟨last, hrun, hlast⟩ := ih next (rs ++ [recordOf s g]) hnext hroom
    refine ⟨last, ?_, hlast⟩
    rw [List.map_cons, List.foldlM_cons, hadd, ok_bind]
    exact hrun

end Draft

/-! ## Header and checksum -/

/-- a cleared buffer with its header written holds no records yet -/
theorem header_holds (buffer : Image) :
    ∃ i, (buffer.fill 0).patch 0 (magic ++ [formatVersion]) = .ok i ∧ Draft.Holds ⟨i, headerSize⟩ [] := by
  have hzeros : (buffer.fill 0).bytes = [] ++ List.replicate 3 0 ++ List.replicate (size - 3) 0 := by
    rw [fill_bytes, List.nil_append, List.replicate_append_replicate]
    rfl
  have hlength : (List.replicate 3 (0 : UInt8)).length = (magic ++ [formatVersion]).length := rfl
  obtain ⟨i, hi, hbytes⟩ := patch_middle hzeros rfl hlength
  refine ⟨i, hi, rfl, ?_⟩
  rw [hbytes]
  -- the reserved byte is one of the zeros
  show magic ++ [formatVersion] ++ List.replicate (size - headerSize + 1) 0 =
    magic ++ [formatVersion, 0] ++ List.replicate (size - headerSize) 0
  rw [List.replicate_succ]
  rfl

/-- the checksum is written behind records and zeros -/
theorem checksum_holds {d : Draft} {rs : List Record} (hd : d.Holds rs) (hframed : ∀ r ∈ rs, r.Framed)
    (hroom : (recordBytes rs).length + recordHeaderSize ≤ dataSize) :
    ∃ i, d.image.patch checksumOffset (bigEndian (checksum d.image.body).toNat) = .ok i ∧ i.Holds rs := by
  have hlength : (recordBody rs).length = checksumOffset := length_recordBody (by omega)
  have hzeros : size - d.offset = dataSize - (recordBytes rs).length + 2 := by
    have hsizes : dataSize + headerSize + 2 = size := by decide
    rw [hd.offset]
    omega
  have hbytes : d.image.bytes = recordBody rs ++ List.replicate 2 0 ++ [] := by
    rw [hd.bytes, hzeros, List.replicate_add, List.append_nil, ← List.append_assoc]
    rfl
  have hbody : d.image.body = recordBody rs := by
    rw [body, hbytes, List.append_assoc, List.take_left' hlength]
  have hwidth : (List.replicate 2 (0 : UInt8)).length = (bigEndian (checksum d.image.body).toNat).length := rfl
  obtain ⟨i, hi, hibytes⟩ := patch_middle hbytes hlength hwidth
  rw [List.append_nil, hbody] at hibytes
  exact ⟨i, hi, holds_of_bytes hframed hroom hibytes⟩

/-! ## All groups -/

theorem number_ne_zero (g : GroupId) : g.number ≠ 0 := by cases g <;> decide

theorem length_payload_le (s : Settings) (g : GroupId) : (g.part.payload s).length ≤ g.maxSize :=
  (g.lawful (g.part.get s)).size_le

theorem framed_recordOf (s : Settings) (g : GroupId) : (recordOf s g).Framed := by
  have hsize : g.maxSize < 65536 := by cases g <;> decide
  exact ⟨number_ne_zero g, Nat.lt_of_le_of_lt (length_payload_le s g) hsize⟩

theorem length_recordBytes_le (s : Settings) (ids : List GroupId) :
    (recordBytes (ids.map (recordOf s))).length ≤
      (ids.map fun g => recordHeaderSize + g.maxSize).sum := by
  induction ids with
  | nil => exact Nat.le_refl 0
  | cons g ids ih =>
    have hg : (recordOf s g).bytes.length ≤ recordHeaderSize + g.maxSize := by
      rw [Record.length_bytes]
      exact Nat.add_le_add_left (length_payload_le s g) _
    rw [List.map_cons, List.map_cons, List.sum_cons]
    show ((recordOf s g).bytes ++ recordBytes (ids.map (recordOf s))).length ≤ _
    rw [List.length_append]
    exact Nat.add_le_add hg ih

/-- the records of all groups -/
def recordsOf (s : Settings) : List Record := GroupId.list.map (recordOf s)

theorem framed_recordsOf (s : Settings) : ∀ r ∈ recordsOf s, r.Framed := by
  intro r hr
  obtain ⟨g, -, rfl⟩ := List.mem_map.1 hr
  exact framed_recordOf s g

/-- the largest settings leave most of an image free -/
theorem room_recordsOf (s : Settings) : (recordBytes (recordsOf s)).length + recordHeaderSize ≤ dataSize := by
  have hsum : (GroupId.list.map fun g => recordHeaderSize + g.maxSize).sum + recordHeaderSize ≤ dataSize := by decide
  have hlength := length_recordBytes_le s GroupId.list
  unfold recordsOf
  omega

/-- **Encoding never fails.** Whatever the buffer held, it ends as an image of the records of all groups. -/
theorem encode_holds (buffer : Image) (s : Settings) : ∃ i, encode buffer s = .ok i ∧ i.Holds (recordsOf s) := by
  obtain ⟨start, hstart, hempty⟩ := header_holds buffer
  obtain ⟨d, hrun, hd⟩ := Draft.run_holds GroupId.list ⟨start, headerSize⟩ [] hempty (room_recordsOf s)
  obtain ⟨i, hi, hholds⟩ := checksum_holds hd (framed_recordsOf s) (room_recordsOf s)
  refine ⟨i, ?_, hholds⟩
  rw [encode, hstart, ok_bind, groups, hrun, ok_bind]
  exact hi

end FlightStore.Image
