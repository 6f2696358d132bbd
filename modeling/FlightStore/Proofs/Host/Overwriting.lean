/-
What a conversion leaves of the file it writes to.

A conversion opens its source, empties the file to write, and only then reads and converts. A source that cannot be
opened is found while nothing is lost. Every other failure leaves an empty file, whatever stood there before, and a file
that is to be converted into itself has lost its bytes before they are read. `Overwrites` says this of an outcome, and
`conversion_overwrites` proves it of both conversions, for every input, every file and every target.

A save to a device does it the other way round: the image is made before the medium is accessed
(`Storage.save`), and a reset to custom defaults that fails leaves the settings alone (`Settings.Resets`).

Witness: `conversion_overwrites_openBrace`. Files that are lost: `conversion_loses_file`.
-/
import FlightStore.Host.Command
import FlightStore.Proofs.Device.Recovery

namespace FlightStore

/-! ## Files at a path -/

namespace Files

variable {fs : Files} {place : List String} {path : String} {bytes : List UInt8}

/-- a path that leads to a place where a file with these bytes stands -/
structure Leads (fs : Files) (path : String) (place : List String) (bytes : List UInt8) : Prop where
  locate : fs.locate path = .ok place
  look : fs.look place = .ok (some (.file bytes))
  file : endsAsDirectory path = false

theorem Leads.read (h : fs.Leads path place bytes) : fs.read path = .ok bytes := read_of_look h.locate h.look h.file

theorem Leads.openable (h : fs.Leads path place bytes) : fs.openable path = .ok () := by
  rw [Files.openable, h.locate]
  dsimp only
  rw [h.look, h.file]
  rfl

theorem Leads.entry_ne (h : fs.Leads path place bytes) : fs.entry? place ≠ some .directory := by
  rw [entry_of_look h.look]
  simp

/-- a file that is there is written where it stands -/
theorem Leads.write (h : fs.Leads path place bytes) (new : List UInt8) :
    fs.write path new = .ok (fs.put place new) := by
  rw [Files.write, h.locate]
  dsimp only
  rw [h.file, h.look]
  rfl

theorem Leads.put (h : fs.Leads path place bytes) (new : List UInt8) : (fs.put place new).Leads path place new where
  locate := locate_put h.entry_ne new h.locate
  look := by
    have hlook := h.look
    unfold Files.look at hlook ⊢
    split_ifs at hlook ⊢
    rw [entry?_put_self h.entry_ne]
  file := h.file

/-- a path that leads elsewhere is read as before -/
theorem Leads.read_put_ne (h : fs.Leads path place bytes) {other : String} {elsewhere : List String}
    (hlocate : fs.locate other = .ok elsewhere) (hne : elsewhere ≠ place) (new : List UInt8) :
    (fs.put place new).read other = fs.read other := by
  have hlocate' : (fs.put place new).locate other = .ok elsewhere := locate_put h.entry_ne new hlocate
  have hentry : Files.entry? (fs.put place new) elsewhere = fs.entry? elsewhere := entry?_put_ne hne new
  have hlook : (fs.put place new).look elsewhere = fs.look elsewhere := by
    unfold Files.look
    rw [hentry]
  unfold Files.read Files.openable
  rw [hlocate, hlocate']
  dsimp only [Except.toOption, Option.bind_some]
  rw [hlook, hentry]

/-- a path that can be opened leads somewhere, and not behind a file -/
theorem exists_of_openable (h : fs.openable path = .ok ()) :
    ∃ place, fs.locate path = .ok place ∧
      ∀ bytes, fs.look place = .ok (some (.file bytes)) → fs.Leads path place bytes := by
  unfold openable at h
  rcases hlocate : fs.locate path with e | place
  · rw [hlocate] at h
    cases h
  · refine ⟨place, rfl, fun bytes hlook => ⟨hlocate, hlook, ?_⟩⟩
    rw [hlocate] at h
    dsimp only at h
    rw [hlook] at h
    dsimp only at h
    split_ifs at h with hdirectory
    exact Bool.not_eq_true _ ▸ hdirectory

end Files

namespace Host

/-! ## What is refused -/

/-- bytes that are no image, or one with a fault -/
def ImageRefused (bytes : List UInt8) : Prop :=
  bytes.length ≠ Image.size ∨ ∃ i e, Image.ofBytes? bytes = some i ∧ i.check = .error e

/-- bytes that are not the text of settings -/
def JsonRefused (bytes : List UInt8) : Prop := (Json.parse bytes).bind Settings.ofJson? = none

/-- an image is converted unless it is refused -/
theorem imageConversion_error_iff (t : Target) (bytes : List UInt8) :
    (∃ e, (jsonOfImage t bytes).map Outcome.utf8 = .error e) ↔ ImageRefused bytes := by
  unfold jsonOfImage ImageRefused Image.ofBytes?
  split_ifs with hsize
  · rcases hcheck : (Image.mk bytes hsize).check with e | u <;> simp [Image.decode, hcheck, hsize, Except.map]
  · simp [hsize, Except.map]

/-- settings always have an image, so text is converted unless it is refused -/
theorem jsonConversion_error_iff (bytes : List UInt8) :
    (∃ e, (imageOfJson bytes).map Image.bytes = .error e) ↔ JsonRefused bytes := by
  unfold imageOfJson JsonRefused
  rcases (Json.parse bytes).bind Settings.ofJson? with _ | s
  · simp [Except.map]
  · obtain ⟨i, hi, -⟩ := Storage.ofSettings_eq s
    simp [hi, Except.map]

theorem imageRefused_nil : ImageRefused [] := .inl (by decide)

theorem jsonRefused_nil : JsonRefused [] := by
  have hparse : Json.parse [] = none := by decide
  rw [JsonRefused, hparse]
  rfl

/-! ## Conversions into a file -/

/-- what is left of a source when the file at a place was emptied -/
def sourceLeft (input : List UInt8) (fs : Files) (place : List String) : Option String → Except FileError (List UInt8)
  | none => .ok input
  | some path => if fs.locate path = .ok place then .ok [] else fs.read path

/-- what a conversion into a file comes to, where `refused` says which bytes cannot be converted -/
structure Overwrites (run : Outcome) (conversion : List UInt8 → Except Failure (List UInt8))
    (refused : List UInt8 → Prop) (source : Option String) (input : List UInt8) (fs : Files) (out : String)
    (place : List String) (old : List UInt8) : Prop where
  refuses : ∀ bytes, (∃ e, conversion bytes = .error e) ↔ refused bytes
  /-- a source that cannot be opened ends the command before anything is written -/
  unopened : ∀ e, openSource fs source = .error e → run = .failed (.file e) [] fs
  /-- any other failure leaves the file empty -/
  emptied : openSource fs source = .ok () →
    (∀ bytes, sourceLeft input fs place source = .ok bytes → refused bytes) → ∃ e, run = .failed e [] (fs.put place [])
  /-- it still has its bytes then exactly if there were none -/
  kept_iff : openSource fs source = .ok () →
    (∀ bytes, sourceLeft input fs place source = .ok bytes → refused bytes) → (run.files.read out = .ok old ↔ old = [])
  /-- the file itself as the source is always refused -/
  itself : ∀ path, source = some path → fs.locate path = .ok place → openSource fs source = .ok () →
    ∃ e, run = .failed e [] (fs.put place [])
  /-- a source that is not refused is converted -/
  converted : openSource fs source = .ok () → ∀ bytes made, sourceLeft input fs place source = .ok bytes →
    conversion bytes = .ok made → run = ⟨.done, [], (fs.put place []).put place made⟩ ∧ run.files.read out = .ok made
  /-- no other place changes -/
  elsewhere : ∀ other, other ≠ place → run.files.entry? other = fs.entry? other

section Convert

variable {conversion : List UInt8 → Except Failure (List UInt8)} {readFailure : FileError → Failure}
  {refused : List UInt8 → Prop} {source : Option String} {input old : List UInt8} {fs : Files} {out : String}
  {place : List String}

theorem convert_unopened {e : FileError} (hopen : openSource fs source = .error e) (sink : Option String) :
    convert conversion readFailure source sink input fs = .failed (.file e) [] fs := by
  rw [convert, hopen]

/-- the source is read after the file was emptied -/
theorem readSource_emptied (h : fs.Leads out place old) (hopen : openSource fs source = .ok ()) :
    readSource input (fs.put place []) source = sourceLeft input fs place source := by
  cases source with
  | none => rfl
  | some path =>
    obtain ⟨found, hlocate, hleads⟩ := Files.exists_of_openable hopen
    -- another name for the file that was emptied is read as empty; any other file is as it was
    by_cases hsame : found = place
    · subst hsame
      have hpath : fs.Leads path found old := hleads old h.look
      rw [sourceLeft, if_pos hlocate]
      exact (hpath.put []).read
    · have hother : fs.locate path ≠ .ok place := by
        rw [hlocate]
        exact fun heq => hsame (Except.ok.inj heq)
      rw [sourceLeft, if_neg hother]
      exact h.read_put_ne hlocate hsame []

/-- once the source is open, the file is emptied and written anew only if the conversion succeeds -/
theorem convert_opened (h : fs.Leads out place old) (hopen : openSource fs source = .ok ()) :
    convert conversion readFailure source (some out) input fs =
      match (sourceLeft input fs place source).mapError readFailure >>= conversion with
      | .error e => .failed e [] (fs.put place [])
      | .ok made => ⟨.done, [], (fs.put place []).put place made⟩ := by
  have hempty : writeSink fs [] (some out) = .ok (fs.put place []) := h.write []
  have hmade : ∀ made, writeSink (fs.put place []) made (some out) = .ok ((fs.put place []).put place made) :=
    fun made => (h.put []).write made
  rw [convert, hopen]
  dsimp only
  rw [hempty]
  dsimp only
  rw [readSource_emptied h hopen]
  rcases (sourceLeft input fs place source).mapError readFailure >>= conversion with e | made
  · rfl
  · dsimp only
    rw [hmade]
    rfl

/-- bytes that could be read from the source decide what becomes of the file -/
theorem convert_read (h : fs.Leads out place old) (hopen : openSource fs source = .ok ()) {bytes : List UInt8}
    (hleft : sourceLeft input fs place source = .ok bytes) :
    convert conversion readFailure source (some out) input fs =
      match conversion bytes with
      | .error e => .failed e [] (fs.put place [])
      | .ok made => ⟨.done, [], (fs.put place []).put place made⟩ := by
  rw [convert_opened h hopen, hleft]
  rfl

theorem convert_emptied (h : fs.Leads out place old)
    (hrefused : ∀ bytes, refused bytes → ∃ e, conversion bytes = .error e) (hopen : openSource fs source = .ok ())
    (hall : ∀ bytes, sourceLeft input fs place source = .ok bytes → refused bytes) :
    ∃ e, convert conversion readFailure source (some out) input fs = .failed e [] (fs.put place []) := by
  rcases hleft : sourceLeft input fs place source with e | bytes
  · rw [convert_opened h hopen, hleft]
    exact ⟨readFailure e, rfl⟩
  · obtain ⟨e, he⟩ := hrefused bytes (hall bytes hleft)
    rw [convert_read h hopen hleft, he]
    exact ⟨e, rfl⟩

/-- a conversion that refuses some bytes, no bytes among them, overwrites the file that it writes to -/
theorem convert_overwrites (hconversion : ∀ bytes, (∃ e, conversion bytes = .error e) ↔ refused bytes)
    (hnone : refused []) (h : fs.Leads out place old) :
    Overwrites (convert conversion readFailure source (some out) input fs) conversion refused source input fs out place
      old := by
  have hemptied : openSource fs source = .ok () →
      (∀ bytes, sourceLeft input fs place source = .ok bytes → refused bytes) →
      ∃ e, convert conversion readFailure source (some out) input fs = .failed e [] (fs.put place []) :=
    convert_emptied h fun bytes => (hconversion bytes).2
  refine {
    refuses := hconversion
    unopened := fun e hopen => convert_unopened hopen _
    emptied := hemptied
    kept_iff := ?kept_iff
    itself := ?itself
    converted := ?converted
    elsewhere := ?elsewhere }
  case kept_iff =>
    intro hopen hall
    obtain ⟨e, hrun⟩ := hemptied hopen hall
    have hread : (fs.put place []).read out = .ok [] := (h.put []).read
    rw [hrun]
    show (fs.put place []).read out = .ok old ↔ old = []
    rw [hread]
    exact ⟨fun heq => (Except.ok.inj heq).symm, fun heq => by rw [heq]⟩
  case itself =>
    intro path hsource hlocate hopen
    subst hsource
    refine hemptied hopen fun bytes hleft => ?_
    rw [sourceLeft, if_pos hlocate] at hleft
    obtain rfl : [] = bytes := Except.ok.inj hleft
    exact hnone
  case converted =>
    intro hopen bytes made hleft hmade
    have hrun : convert conversion readFailure source (some out) input fs =
        ⟨.done, [], (fs.put place []).put place made⟩ := by
      rw [convert_read h hopen hleft, hmade]
    refine ⟨hrun, ?_⟩
    rw [hrun]
    exact ((h.put []).put made).read
  case elsewhere =>
    intro other hne
    rcases hopen : openSource fs source with e | u
    · rw [convert_unopened hopen]
      rfl
    · rw [convert_opened h hopen]
      rcases (sourceLeft input fs place source).mapError readFailure >>= conversion with e | made
      · exact Files.entry?_put_ne hne []
      · exact (Files.entry?_put_ne hne made).trans (Files.entry?_put_ne hne [])

end Convert

/-! ## Both conversions -/

/-- **A failed conversion empties its output.** For every target, every input and every file that the output leads to: a
conversion that could open its source and then fails, because bytes are no image without a fault or no text of settings,
leaves an empty file. -/
theorem conversion_overwrites (args : Arguments) (path : String) (p : Preferences) (input : List UInt8) {fs : Files}
    {out : String} {place : List String} {old : List UInt8} (h : fs.Leads out place old) (source : Option String) :
    Overwrites ({ args with command := .imageToJson source (some out) }.run path p input fs)
        (fun bytes => (jsonOfImage p.target bytes).map Outcome.utf8) ImageRefused source input fs out place old ∧
      Overwrites ({ args with command := .jsonToImage source (some out) }.run path p input fs)
        (fun bytes => (imageOfJson bytes).map Image.bytes) JsonRefused source input fs out place old := by
  constructor
  · exact convert_overwrites (imageConversion_error_iff p.target) imageRefused_nil h
  · exact convert_overwrites jsonConversion_error_iff jsonRefused_nil h

/-- one file, which holds an opening brace and nothing else -/
def openBrace : Files := ⟨[(["settings"], .file [0x7b])]⟩

theorem openBrace_leads : openBrace.Leads "settings" ["settings"] [0x7b] where
  locate := Files.locate_settings openBrace
  look := rfl
  file := by decide +kernel

theorem jsonRefused_openBrace : JsonRefused [0x7b] := by
  have hparse : Json.parse [0x7b] = none := by decide
  rw [JsonRefused, hparse]
  rfl

/-- emptied, the file that holds the brace is refused both as an image and as text -/
theorem refused_sourceLeft (input bytes : List UInt8)
    (h : sourceLeft input openBrace ["settings"] (some "settings") = .ok bytes) :
    ImageRefused bytes ∧ JsonRefused bytes := by
  rw [sourceLeft, if_pos openBrace_leads.locate] at h
  obtain rfl : [] = bytes := Except.ok.inj h
  exact ⟨imageRefused_nil, jsonRefused_nil⟩

/-- a file converted into itself, as an image and as text, has lost its brace -/
theorem conversion_overwrites_openBrace :
    openBrace.Leads "settings" ["settings"] [0x7b] ∧
      (Arguments.run ⟨none, none, .imageToJson (some "settings") (some "settings")⟩ "" {} [] openBrace).files.read
          "settings" ≠ .ok [0x7b] ∧
      (Arguments.run ⟨none, none, .jsonToImage (some "settings") (some "settings")⟩ "" {} [] openBrace).files.read
          "settings" ≠ .ok [0x7b] := by
  obtain ⟨himage, hjson⟩ := conversion_overwrites ⟨none, none, .check⟩ "" {} [] openBrace_leads (some "settings")
  have hopen : openSource openBrace (some "settings") = .ok () := openBrace_leads.openable
  refine ⟨openBrace_leads, fun hread => ?_, fun hread => ?_⟩
  · have hempty := (himage.kept_iff hopen fun bytes hbytes => (refused_sourceLeft [] bytes hbytes).1).1 hread
    cases hempty
  · have hempty := (hjson.kept_iff hopen fun bytes hbytes => (refused_sourceLeft [] bytes hbytes).2).1 hread
    cases hempty

/-- **A file can be lost.** A brace is converted as if it were the text of settings, once from the input of the tool and
once from the file that is written. Both conversions fail, and the brace that was in the file is gone. -/
theorem conversion_loses_file :
    JsonRefused [0x7b] ∧ openBrace.read "settings" = .ok [0x7b] ∧
      ∀ source ∈ [none, some "settings"], ∃ e emptied,
        Arguments.run ⟨none, none, .jsonToImage source (some "settings")⟩ "" {} [0x7b] openBrace =
            .failed e [] emptied ∧
          emptied.read "settings" = .ok [] := by
  refine ⟨jsonRefused_openBrace, openBrace_leads.read, fun source hsource => ?_⟩
  have hopen : openSource openBrace source = .ok () ∧
      ∀ bytes, sourceLeft [0x7b] openBrace ["settings"] source = .ok bytes → JsonRefused bytes := by
    rcases List.mem_pair.1 hsource with rfl | rfl
    · exact ⟨rfl, fun bytes hbytes => Except.ok.inj hbytes ▸ jsonRefused_openBrace⟩
    · exact ⟨openBrace_leads.openable, fun bytes hbytes => (refused_sourceLeft [0x7b] bytes hbytes).2⟩
  obtain ⟨e, hrun⟩ : ∃ e, convert (fun bytes => (imageOfJson bytes).map Image.bytes) (fun _ => .json) source
      (some "settings") [0x7b] openBrace = .failed e [] (openBrace.put ["settings"] []) :=
    convert_emptied openBrace_leads (fun bytes => (jsonConversion_error_iff bytes).2) hopen.1 hopen.2
  exact ⟨e, _, hrun, (openBrace_leads.put []).read⟩

end Host
end FlightStore
