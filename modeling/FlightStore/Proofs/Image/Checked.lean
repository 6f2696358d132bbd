/-
Reading an image with every step checked.

A slice or a byte past the end, a place past the end of a table and a sum that does not fit a word of 32 bits have no
result here. `check?` and `decode?` look for faults and read the settings in this way: letters, version and checksum are
cut out of the image, the cursor looks up the bytes of each header, a record finds the row of its group by number, and
flags in a table of their own tell which groups were read.

A cursor that starts within the data never leaves it and comes closer to the end with whatever it yields (`next_left`), so
everything it yields can be listed (`items?`). `check?_eq` and `decode?_eq` prove that each step has a result on every
image, and that the answers are those of `check` and `decode`.
-/
import FlightStore.Image.Settings
import FlightStore.Proofs.Image.Framing
import FlightStore.Proofs.Loop.Threshold
import FlightStore.Proofs.Settings.Parts

namespace FlightStore

/-! ## The table of groups -/

namespace GroupId

/-- the place of a group in the table, its number less one -/
def place? (g : GroupId) : Option Nat := if 1 ≤ g.number.toNat then some (g.number.toNat - 1) else none

theorem place?_eq (g : GroupId) : g.place? = some (list.idxOf g) := by cases g <;> rfl

theorem getElem?_groups (g : GroupId) : groups[list.idxOf g]? = some g.group := by cases g <;> rfl

/-- the flags of a list of groups, one for each row of the table -/
def flags (gs : List GroupId) : List Bool := list.map gs.contains

theorem length_flags (gs : List GroupId) : (flags gs).length = list.length := List.length_map _

theorem flags_cons (g : GroupId) (gs : List GroupId) : flags (g :: gs) = (flags gs).set (list.idxOf g) true := by
  cases g <;> rfl

end GroupId

namespace Image

open Timing (fits? fits?_of_le fits?_of_lt)

/-! ## The cursor -/

namespace Cursor

variable {data : List UInt8} {c : Cursor}

/-- what a cursor yields: places are added up in a word, and the bytes of a header are looked up one by one -/
def next? (data : List UInt8) (c : Cursor) : Option (Option (Except Unit Record) × Cursor) :=
  if c.done then some (none, c)
  else do
    let start ← fits? 32 (c.offset + recordHeaderSize)
    match slice? data c.offset recordHeaderSize with
    | none => some (some (.error ()), { c with done := true })
    | some header => do
      let id := ofBigEndian (← header[0]?) (← header[1]?)
      if id = 0 then some (none, { c with done := true })
      else do
        let version ← header[2]?
        let length := ofBigEndian (← header[3]?) (← header[4]?)
        let stop ← fits? 32 (start + length)
        match slice? data start length with
        | none => some (some (.error ()), { c with done := true })
        | some payload => some (some (.ok ⟨UInt16.ofNat id, version, payload⟩), { c with offset := stop })

/-- a slice has as many bytes as were asked for, and ends within the data -/
theorem slice?_eq_some {place length : Nat} {bytes : List UInt8} (h : slice? data place length = some bytes) :
    bytes.length = length ∧ place + length ≤ data.length := by
  unfold slice? at h
  split_ifs at h with hfits
  obtain rfl := Option.some.inj h
  refine ⟨List.length_take_of_le ?_, hfits⟩
  rw [List.length_drop]
  omega

/-- a step has the result of `next`, unless a place does not fit its word: a slice of five bytes has a byte at each of
the five places that are looked up -/
theorem next?_eq_or (data : List UInt8) (c : Cursor) :
    next? data c = some (next data c) ∨
      next? data c = none ∧ ∃ length < 2 ^ 16, 2 ^ 32 ≤ c.offset + recordHeaderSize + length := by
  unfold next? next
  split_ifs with hdone
  · exact .inl rfl
  · rcases Nat.lt_or_ge (c.offset + recordHeaderSize) (2 ^ 32) with hstart | hstart
    · rw [fits?_of_lt hstart, Option.bind_eq_bind, Option.bind_some]
      rcases hheader : slice? data c.offset recordHeaderSize with _ | header
      · exact .inl rfl
      · obtain ⟨hlength, -⟩ := slice?_eq_some hheader
        match header, hlength with
        | [i₁, i₂, version, l₁, l₂], _ =>
          simp only [List.getElem?_cons_zero, List.getElem?_cons_succ, List.getD_cons_zero, List.getD_cons_succ,
            Option.bind_eq_bind, Option.bind_some]
          split_ifs
          · exact .inl rfl
          · rcases Nat.lt_or_ge (c.offset + recordHeaderSize + ofBigEndian l₁ l₂) (2 ^ 32) with hstop | hstop
            · rw [fits?_of_lt hstop, Option.bind_some]
              cases slice? data (c.offset + recordHeaderSize) (ofBigEndian l₁ l₂) <;> exact .inl rfl
            · rw [fits?_of_le hstop]
              exact .inr ⟨rfl, _, ofBigEndian_lt l₁ l₂, hstop⟩
    · rw [fits?_of_le hstart]
      exact .inr ⟨rfl, 0, by decide, hstart⟩

/-- within the data every step of a cursor has a result -/
theorem next?_eq (hdata : data.length < 2 ^ 16) (hc : c.offset ≤ data.length) : next? data c = some (next data c) := by
  rcases next?_eq_or data c with h | ⟨-, length, hlength, hlong⟩
  · exact h
  · unfold recordHeaderSize at hlong
    omega

/-- the way that a cursor still has to go at most; one that is done is at the end -/
def left (data : List UInt8) (c : Cursor) : Nat := if c.done then 0 else data.length - c.offset + 1

/-- a step stays within the data, and what it yields brings the cursor closer to the end -/
theorem next_left (data : List UInt8) (c : Cursor) :
    (c.offset ≤ data.length → (next data c).2.offset ≤ data.length) ∧
      ((next data c).1 ≠ none → left data (next data c).2 < left data c) := by
  unfold next
  split_ifs with hdone
  · exact ⟨id, fun h => absurd rfl h⟩
  · have hleft : left data c = data.length - c.offset + 1 := if_neg hdone
    rw [hleft]
    rcases slice? data c.offset recordHeaderSize with _ | header
    · exact ⟨id, fun _ => Nat.succ_pos _⟩
    · dsimp only
      split_ifs
      · exact ⟨id, fun h => absurd rfl h⟩
      · rcases hpayload : slice? data (c.offset + recordHeaderSize)
          (ofBigEndian (header.getD 3 0) (header.getD 4 0)) with _ | payload
        · exact ⟨id, fun _ => Nat.succ_pos _⟩
        · have hinside := (slice?_eq_some hpayload).2
          refine ⟨fun _ => hinside, fun _ => ?_⟩
          unfold left recordHeaderSize at *
          dsimp only
          rw [if_neg hdone]
          omega

/-- everything that a cursor yields, in order -/
def items? (data : List UInt8) (c : Cursor) : Option (List (Except Unit Record)) :=
  match _h : next? data c with
  | none => none
  | some (none, _) => some []
  | some (some x, c') => (items? data c').map (x :: ·)
termination_by left data c
decreasing_by
  rcases next?_eq_or data c with hnext | ⟨hnone, -⟩
  · have hstep := (next_left data c).2
    rw [← Option.some.inj (_h.symm.trans hnext)] at hstep
    exact hstep (Option.some_ne_none x)
  · rw [hnone] at _h
    cases _h

theorem items?_stop {c' : Cursor} (h : next? data c = some (none, c')) : items? data c = some [] := by
  rw [items?]
  split <;> rename_i hnext <;> rw [h] at hnext <;> cases hnext

theorem items?_item {c' : Cursor} {x : Except Unit Record} (h : next? data c = some (some x, c')) :
    items? data c = (items? data c').map (x :: ·) := by
  rw [items?]
  split <;> rename_i hnext <;> rw [h] at hnext <;> cases hnext
  rfl

/-- within the data a cursor has a result at every step, up to the end -/
theorem items?_of_yields (hdata : data.length < 2 ^ 16) {items : List (Except Unit Record)} (h : Yields data c items)
    (hc : c.offset ≤ data.length) : items? data c = some items := by
  induction h with
  | stop h => exact items?_stop ((next?_eq hdata hc).trans (congrArg some h))
  | @item c c' x xs h _ ih =>
    have hbehind : c'.offset ≤ data.length := by
      have hle := (next_left data c).1 hc
      rwa [h] at hle
    rw [items?_item ((next?_eq hdata hc).trans (congrArg some h)), ih hbehind]
    rfl

end Cursor

/-! ## Looking for faults -/

/-- the records and what follows them, cut out of an image -/
def data? (i : Image) : Option (List UInt8) := Cursor.slice? i.bytes headerSize dataSize

theorem data?_eq (i : Image) : i.data? = some i.data := by
  have hfits : headerSize + dataSize ≤ i.bytes.length := by
    rw [i.length_eq]
    decide
  rw [data?, Cursor.slice?, if_pos hfits, data, body, List.take_drop]
  rfl

/-- the first bytes of an image, cut out of it -/
theorem slice?_zero (i : Image) {length : Nat} (h : length ≤ size) :
    Cursor.slice? i.bytes 0 length = some (i.bytes.take length) := by
  have hfits : 0 + length ≤ i.bytes.length := by
    rw [i.length_eq, Nat.zero_add]
    exact h
  rw [Cursor.slice?, if_pos hfits, List.drop_zero]

theorem getElem?_bytes (i : Image) {place : Nat} (h : place < size) :
    i.bytes[place]? = some (i.bytes.getD place 0) := by
  have hlt : place < i.bytes.length := by
    rw [i.length_eq]
    exact h
  rw [List.getD_eq_getElem?_getD, List.getElem?_eq_getElem hlt]
  rfl

/-- what the cursor yields in an image -/
def items? (i : Image) : Option (List (Except Unit Record)) := do
  let data ← i.data?
  Cursor.items? data {}

/-- a cursor reads every image to the end; it meets a fault if the list of records has no end, and otherwise yields the
records -/
theorem items?_eq (i : Image) :
    ∃ items, i.items? = some items ∧ (.error () ∈ items ↔ i.records? = none) ∧
      ∀ rs, i.records? = some rs → items.filterMap Except.toOption = rs := by
  have hdata : i.data.length < 2 ^ 16 := by
    rw [length_data]
    decide
  have hitems : ∀ {items : List (Except Unit Record)}, Cursor.Yields i.data {} items → i.items? = some items := by
    intro items h
    rw [items?, data?_eq, Option.bind_eq_bind, Option.bind_some]
    exact Cursor.items?_of_yields hdata h (Nat.zero_le _)
  obtain ⟨rs, ⟨hread, hyields⟩ | ⟨hread, hyields⟩⟩ := Cursor.yields_readAll i.data i.data 0 rfl
  · refine ⟨_, hitems hyields, ⟨fun h => ?_, fun h => ?_⟩, fun rs' h => ?_⟩
    · obtain ⟨r, -, hr⟩ := List.mem_map.1 h
      cases hr
    · rw [records?, hread] at h
      cases h
    · rw [List.filterMap_map]
      exact (List.filterMap_some).trans (Option.some.inj (hread.symm.trans h))
  · refine ⟨_, hitems hyields, ⟨fun _ => hread, fun _ => ?_⟩, fun rs' h => ?_⟩
    · exact List.mem_append_right _ (List.mem_singleton_self _)
    · rw [records?, hread] at h
      cases h

/-- looks for faults, in the order of `check` -/
def check? (i : Image) : Option (Except ImageError Unit) := do
  let letters ← Cursor.slice? i.bytes 0 2
  if letters ≠ magic then some (.error .magic)
  else do
    let version ← i.bytes[2]?
    if version ≠ formatVersion then some (.error (.formatVersion version))
    else do
      let body ← Cursor.slice? i.bytes 0 checksumOffset
      let stored := ofBigEndian (← i.bytes[checksumOffset]?) (← i.bytes[checksumOffset + 1]?)
      if (checksum body).toNat ≠ stored then some (.error .checksum)
      else do
        let items ← i.items?
        if .error () ∈ items then some (.error .truncated) else some (.ok ())

/-- **Looking for faults never goes past an end.** -/
theorem check?_eq (i : Image) : i.check? = some i.check := by
  obtain ⟨items, hitems, hfault, -⟩ := i.items?_eq
  rw [check?, slice?_zero i (by decide), getElem?_bytes i (by decide), slice?_zero i (by decide),
    getElem?_bytes i (by decide : checksumOffset < size), getElem?_bytes i (by decide : checksumOffset + 1 < size),
    hitems]
  simp only [Option.bind_eq_bind, Option.bind_some, hfault]
  unfold check body storedChecksum
  split_ifs <;> rfl

/-! ## Reading the settings -/

/-- settings being read, and a flag for each row of the table: whether the group was read -/
structure Flagged where
  settings : Settings
  flags : List Bool

/-- settings being read, with their flags -/
def Restored.flagged (p : Restored) : Flagged := ⟨p.settings, GroupId.flags p.loaded⟩

namespace Flagged

/-- raises the flag at a place of the table -/
def raise? (p : Flagged) (place : Nat) : Option Flagged :=
  if place < p.flags.length then some { p with flags := p.flags.set place true } else none

/-- takes over a record, if it can be used: the row of its group is looked up by number, and so is the flag -/
def step? (p : Flagged) (r : Record) : Option Flagged :=
  match GroupId.ofNumber? r.id with
  | none => some p
  | some g => do
    let row ← groups[← g.place?]?
    if r.version ≠ row.version then some p
    else
      match row.decode r.payload p.settings with
      | .error _ => some p
      | .ok s => do
        let place ← g.place?
        { p with settings := s }.raise? place

/-- resets each group whose flag is not raised -/
def resetMissing (p : Flagged) (t : Target) : Settings :=
  (groups.zip p.flags).foldl (fun s row => if row.2 then s else row.1.reset t s) p.settings

end Flagged

/-- a group that was read has a flag to raise -/
theorem raise?_flags (s : Settings) (loaded : List GroupId) (g : GroupId) :
    Flagged.raise? ⟨s, GroupId.flags loaded⟩ (GroupId.list.idxOf g) = some (Restored.flagged ⟨s, g :: loaded⟩) := by
  have hplace : GroupId.list.idxOf g < (GroupId.flags loaded).length := by
    rw [GroupId.length_flags]
    exact List.idxOf_lt_length_of_mem g.mem_list
  rw [Flagged.raise?, if_pos hplace, Restored.flagged, GroupId.flags_cons]

/-- every record finds its row and its flag -/
theorem step?_flagged (p : Restored) (r : Record) : p.flagged.step? r = some (p.step r).flagged := by
  unfold Flagged.step? Restored.step
  rcases GroupId.ofNumber? r.id with _ | g
  · rfl
  · simp only [GroupId.place?_eq, Option.bind_eq_bind, Option.bind_some, GroupId.getElem?_groups]
    split_ifs
    · rfl
    · rw [show p.flagged.settings = p.settings from rfl]
      rcases g.group.decode r.payload p.settings with e | s
      · rfl
      · exact raise?_flags s p.loaded g

theorem run_flagged (rs : List Record) (p : Restored) :
    rs.foldlM Flagged.step? p.flagged = some (rs.foldl Restored.step p).flagged := by
  induction rs generalizing p with
  | nil => rfl
  | cons r rs ih => rw [List.foldlM_cons, step?_flagged, Option.bind_eq_bind, Option.bind_some, ih, List.foldl_cons]

/-- the groups without a raised flag are those that were not read -/
theorem resetMissing_flagged (t : Target) (p : Restored) :
    p.flagged.resetMissing t = groups.foldl (Restored.resetMissing t p.loaded) p.settings := by
  rw [Flagged.resetMissing, Restored.flagged, GroupId.flags, groups, List.zip_map', List.foldl_map, List.foldl_map]
  simp only [Restored.resetMissing, GroupId.group_id, List.contains_iff_mem]

/-- reads the settings of an image -/
def decode? (i : Image) (t : Target) (s : Settings) : Option (Except ImageError Settings) := do
  match ← i.check? with
  | .error e => some (.error e)
  | .ok () => do
    let items ← i.items?
    let p ← (items.filterMap Except.toOption).foldlM Flagged.step? ⟨s, List.replicate groups.length false⟩
    some (.ok (p.resetMissing t))

/-- **Reading the settings never goes past an end.** -/
theorem decode?_eq (i : Image) (t : Target) (s : Settings) : i.decode? t s = some (i.decode t s) := by
  rw [decode?, check?_eq, Option.bind_eq_bind, Option.bind_some, decode]
  rcases hcheck : i.check with e | u
  · rfl
  · obtain ⟨rs, hrecords⟩ := records_of_check hcheck
    obtain ⟨items, hitems, -, hread⟩ := i.items?_eq
    have hrun : rs.foldlM Flagged.step? ⟨s, List.replicate groups.length false⟩ = _ := run_flagged rs ⟨s, []⟩
    show (i.items?.bind fun items => Option.bind _ _) = _
    rw [hitems, Option.bind_some, hread rs hrecords, hrun, Option.bind_some, resetMissing_flagged, hrecords]
    rfl

end Image
end FlightStore
