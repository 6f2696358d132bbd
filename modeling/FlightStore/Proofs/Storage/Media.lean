/-
Media that can be depended on.

A medium is dependable if a read leaves it alone, and if it takes any image and then answers with it (`Dependable`). A
save to such a medium succeeds, and the settings are there (`Dependable.save`). A medium in memory is dependable,
whatever it holds (`dependable_memory`). A file is, whatever it holds and even if there is none, as long as the path
leads to it and not to a directory (`dependable_imageFile`): the directories that lead there are still there after the
write, so the same path leads to what was written (`locate_put`, `read_put`).
-/
import FlightStore.Proofs.Device.Survival
import FlightStore.Storage.Files
import FlightStore.Storage.Memory

namespace FlightStore

/-! ## Files -/

namespace Files

variable {fs : Files} {place : List String} {path : String} {bytes : List UInt8}

/-- a path at which a file stands or can be put -/
structure Writable (fs : Files) (path : String) : Prop where
  leads : ∃ place found, fs.locate path = .ok place ∧ fs.look place = .ok found ∧
    (found = none ∨ ∃ bytes, found = some (.file bytes))
  file : endsAsDirectory path = false

theorem entry_of_look {found : Option Entry} (h : fs.look place = .ok found) : fs.entry? place = found := by
  unfold look at h
  split_ifs at h
  exact Except.ok.inj h

theorem lookup_filter_ne {other : List String} (hne : other ≠ place) (entries : List (List String × Entry)) :
    (entries.filter fun e => e.1 ≠ place).lookup other = entries.lookup other := by
  induction entries with
  | nil => rfl
  | cons e entries ih =>
    obtain ⟨name, entry⟩ := e
    by_cases hname : name = place
    · subst hname
      have hskip : (other == name) = false := beq_eq_false_iff_ne.2 hne
      rw [List.filter_cons_of_neg (by simp), List.lookup_cons, hskip, ih]
    · rw [List.filter_cons_of_pos (by simpa using hname), List.lookup_cons, List.lookup_cons, ih]

/-- a file put at a place changes no other place -/
theorem entry?_put_ne {other : List String} (hne : other ≠ place) (bytes : List UInt8) :
    entry? (fs.put place bytes) other = fs.entry? other := by
  have hskip : (other == place) = false := beq_eq_false_iff_ne.2 hne
  unfold entry? put
  rw [List.lookup_cons, hskip, lookup_filter_ne hne]

/-- a file put where no directory is stands there; the root and the directories around it are never put anywhere -/
theorem entry?_put_self (h : fs.entry? place ≠ some .directory) (bytes : List UInt8) :
    entry? (fs.put place bytes) place = some (.file bytes) := by
  unfold entry? at h ⊢
  split_ifs at h ⊢ with hroot
  · exact absurd rfl h
  · simp [put]

/-- a put keeps every directory but the one it replaces -/
theorem look_put_directory (h : fs.entry? place ≠ some .directory) (bytes : List UInt8) {other : List String}
    (hother : fs.look other = .ok (some .directory)) : (fs.put place bytes).look other = .ok (some .directory) := by
  have hne : other ≠ place := by
    rintro rfl
    exact h (entry_of_look hother)
  have hentry := entry_of_look hother
  unfold look at hother ⊢
  split_ifs at hother ⊢
  rw [entry?_put_ne hne, hentry]

/-- names lead where they led before, since they go through directories only -/
theorem follow_put (h : fs.entry? place ≠ some .directory) (bytes : List UInt8) {start names goal : List String}
    (hfollow : fs.follow start names = .ok goal) : (fs.put place bytes).follow start names = .ok goal := by
  fun_induction follow fs start names with
  | case1 => exact hfollow
  | case2 => exact hfollow
  | case3 => cases hfollow
  | case4 => cases hfollow
  | case5 start name rest hrest hlook ih =>
    have hnext := look_put_directory h bytes hlook
    rw [follow, hnext]
    · exact ih hfollow
    · exact hrest
  | case6 => cases hfollow

theorem locate_put (h : fs.entry? place ≠ some .directory) (bytes : List UInt8) {goal : List String}
    (hlocate : fs.locate path = .ok goal) : (fs.put place bytes).locate path = .ok goal := by
  unfold locate at hlocate ⊢
  split_ifs at hlocate ⊢
  exact follow_put h bytes hlocate

/-- a path is read where it leads -/
theorem read_of_look (hlocate : fs.locate path = .ok place) (hlook : fs.look place = .ok (some (.file bytes)))
    (hfile : endsAsDirectory path = false) : fs.read path = .ok bytes := by
  have hopen : fs.openable path = .ok () := by
    unfold openable
    rw [hlocate]
    dsimp only
    rw [hlook, hfile]
    rfl
  unfold read
  rw [hopen, hlocate]
  simp only [Except.toOption, Option.bind_some, entry_of_look hlook]

/-- a file put where a path leads is read at that path -/
theorem read_put {found : Option Entry} (hlocate : fs.locate path = .ok place) (hlook : fs.look place = .ok found)
    (hfound : found ≠ some .directory) (hfile : endsAsDirectory path = false) (bytes : List UInt8) :
    (fs.put place bytes).read path = .ok bytes := by
  have hentry : fs.entry? place ≠ some .directory := by rwa [entry_of_look hlook]
  have hput : (fs.put place bytes).look place = .ok (some (.file bytes)) := by
    unfold look at hlook ⊢
    split_ifs at hlook ⊢
    rw [entry?_put_self hentry]
  exact read_of_look (locate_put hentry bytes hlocate) hput hfile

/-- **Write and read.** What is written at a path that leads to a file or to nothing is read there. -/
theorem Writable.write_read (h : fs.Writable path) (bytes : List UInt8) :
    ∃ fs', fs.write path bytes = .ok fs' ∧ fs'.read path = .ok bytes := by
  obtain ⟨⟨place, found, hlocate, hlook, hfound⟩, hfile⟩ := h
  refine ⟨fs.put place bytes, ?_, ?_⟩
  · rw [write, hlocate]
    dsimp only
    rw [hfile, hlook]
    rcases hfound with rfl | ⟨old, rfl⟩ <;> rfl
  · have hdirectory : found ≠ some .directory := by
      rcases hfound with rfl | ⟨old, rfl⟩ <;> simp
    exact read_put hlocate hlook hdirectory hfile bytes

end Files

/-! ## Media -/

namespace Storage

variable {σ ε : Type} [Storage σ ε]

/-- a medium that keeps what it is given, and that no read changes -/
structure Dependable (m : σ) : Prop where
  reads : (Storage.read m).2 = m
  writes : ∀ i : Image, ∃ m', Storage.write i m = (.ok (), m') ∧ Storage.read m' = (.ok i, m')

/-- settings saved to a dependable medium are there -/
theorem Dependable.save {m : σ} (h : Dependable m) (s : Settings) :
    (Storage.save s m).result = .ok () ∧ ∃ i : Image, i.Holds (Image.recordsOf s) ∧
      Storage.read (Storage.save s m).medium = (.ok i, (Storage.save s m).medium) := by
  obtain ⟨i, hi, hholds⟩ := ofSettings_eq s
  obtain ⟨m', hwrite, hread⟩ := h.writes i
  have hsave : Storage.save s m = ⟨.ok (), m', [.write, .read]⟩ := by
    unfold Storage.save saveImage
    rw [hi]
    dsimp only
    rw [hwrite]
    dsimp only
    rw [hread]
    dsimp only
    rw [if_pos rfl]
  rw [hsave]
  exact ⟨rfl, i, hholds, hread⟩

theorem dependable_memory (m : Memory) : Dependable m := ⟨rfl, fun i => ⟨⟨i⟩, rfl, rfl⟩⟩

/-- a file is read as an image if it has the size of one -/
theorem read_imageFile {m : ImageFile} {bytes : List UInt8} (h : m.files.read m.path = .ok bytes) :
    Storage.read m = ((Image.ofBytes? bytes).elim (.error (.wrongSize bytes.length)) .ok, m) := by
  simp only [Storage.read, h]
  cases Image.ofBytes? bytes <;> rfl

theorem ofBytes?_bytes (i : Image) : Image.ofBytes? i.bytes = some i := dif_pos i.length_eq

theorem dependable_imageFile {m : ImageFile} (h : m.files.Writable m.path) : Dependable m := by
  refine ⟨rfl, fun i => ?_⟩
  obtain ⟨files, hwrite, hread⟩ := h.write_read i.bytes
  refine ⟨{ m with files }, ?_, ?_⟩
  · simp only [Storage.write, hwrite]
  · have hanswer := read_imageFile (m := { m with files }) hread
    rwa [ofBytes?_bytes] at hanswer

end Storage
end FlightStore
