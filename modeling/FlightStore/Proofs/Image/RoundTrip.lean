/-
Settings survive their image.

Among the records of all groups the last usable one for each group carries its part, so what is read are the settings
that were written, over any others (`restore_recordsOf`). With an encoder that never fails and an image without a fault
this is the round trip.
-/
import FlightStore.Proofs.Image.Decoding
import FlightStore.Proofs.Image.Encode

namespace FlightStore.Image

variable {t : Target} {s : Settings}

/-- the record of a group is usable for it, and carries its part -/
theorem usable?_recordOf (s : Settings) (g : GroupId) : (recordOf s g).usable? g = some (g.part.get s) := by
  have hget := (g.lawful (g.part.get s)).get_put []
  rw [List.append_nil] at hget
  exact Record.usable?_eq_some_iff.2 ⟨rfl, rfl, [], hget⟩

/-- among the records of some groups, the last usable one for each of them carries its part -/
theorem lastUsable?_recordOf (s : Settings) (g : GroupId) (ids : List GroupId) :
    lastUsable? g (ids.map (recordOf s)) = if g ∈ ids then some (g.part.get s) else none := by
  induction ids with
  | nil => rfl
  | cons h ids ih =>
    rw [List.map_cons, lastUsable?_cons, ih]
    by_cases hmem : g ∈ ids
    · simp [hmem]
    · by_cases hg : g = h
      · subst hg
        simp [hmem, usable?_recordOf]
      · simp [hmem, hg, Record.usable?_of_ne (usable?_recordOf s h) hg]

/-- reading the records of all groups leaves nothing of the settings from before -/
theorem restore_recordsOf (t : Target) (s prior : Settings) : restore t (recordsOf s) prior = s := by
  refine GroupId.ext_parts fun g => ?_
  rw [part_restore, recordsOf, lastUsable?_recordOf, if_pos g.mem_list]
  rfl

/-- an image of the records of settings is read as these settings -/
theorem Holds.decode_eq {i : Image} (h : i.Holds (recordsOf s)) (t : Target) (prior : Settings) :
    i.decode t prior = .ok s := by
  rw [decode, h.check_eq, h.records_eq]
  exact congrArg Except.ok (restore_recordsOf t s prior)

/-- **Settings survive their image.** All settings can be written over any buffer; the image has no fault, and is read
as exactly these settings, over any others and for any target. -/
theorem decode_encode (buffer : Image) (s : Settings) :
    ∃ i, encode buffer s = .ok i ∧ i.check = .ok () ∧
      ∀ (t : Target) (prior : Settings), i.decode t prior = .ok s := by
  obtain ⟨i, hi, hholds⟩ := encode_holds buffer s
  exact ⟨i, hi, hholds.check_eq, fun t prior => hholds.decode_eq t prior⟩

end FlightStore.Image
