/-
Images and JSON stand for the same settings.

Settings are read back from their text, whatever they hold (`parse_pretty`). An image without a fault is therefore
converted to a text, and that text to the image of the settings that the first one stands for; the commands do the same
when the output of one is the input of the other (`Converted`). The second image depends on the settings alone; the first
is the same if it is their image, however awkward they are as text (`imageOfJson_jsonOfImage_awkward`).
-/
import FlightStore.Host.Command
import FlightStore.Proofs.Settings.Written
import FlightStore.Proofs.Storage.Media

namespace FlightStore.Host

/-! ## Settings as text -/

theorem toList_utf8 (text : String) : Outcome.utf8 text = Json.utf8 text.toList := Json.toList_toUTF8 text

/-- settings are read back from their text, with blanks behind it -/
theorem parse_pretty (s : Settings) (blanks : String) (h : ∀ c ∈ blanks.toList, c = ' ' ∨ c = '\n') :
    (Json.parse (Outcome.utf8 (s.toJson.pretty ++ blanks))).bind Settings.ofJson? = some s := by
  have hblanks : ∀ b ∈ Json.utf8 blanks.toList, Json.isSpace b = true := by
    intro b hb
    obtain ⟨c, hc, hb⟩ := List.mem_flatMap.1 hb
    rcases h c hc with rfl | rfl
    · rw [List.mem_singleton.1 hb]
      decide
    · rw [List.mem_singleton.1 hb]
      decide
  have hread := Json.parse_chars (Settings.json_lawful.solid s) _ hblanks
  rw [toList_utf8, String.toList_append, Json.utf8_append, Json.pretty, String.toList_ofList]
  show (Json.parse (Json.utf8 (Json.chars 0 (Settings.schema.json.write s)) ++ _)).bind _ = some s
  rw [hread]
  exact Settings.json_lawful.read_write s

/-- text of settings makes the image of these settings -/
theorem imageOfJson_text {s : Settings} {out : Image} (h : Image.ofSettings s = .ok out) :
    imageOfJson (Outcome.utf8 (s.toJson.pretty ++ "\n")) = .ok out := by
  have hread := parse_pretty s "\n" (by simp)
  rw [imageOfJson, hread]
  simp only [h]

/-- an image without a fault makes the text of its settings -/
theorem jsonOfImage_decoded {i : Image} {t : Target} {s : Settings} (h : i.decode t (.defaults t) = .ok s) :
    jsonOfImage t i.bytes = .ok (s.toJson.pretty ++ "\n") := by
  rw [jsonOfImage, Storage.ofBytes?_bytes]
  simp only [h]

/-! ## Commands -/

/-- a conversion from the input to the output of the tool -/
theorem convert_streams {conversion : List UInt8 → Except Failure (List UInt8)} {input bytes : List UInt8}
    (h : conversion input = .ok bytes) (readFailure : FileError → Failure) (fs : Files) :
    convert conversion readFailure none none input fs = ⟨.done, bytes, fs⟩ := by
  have hread : ((readSource input fs none).mapError readFailure >>= conversion) = .ok bytes := h
  simp only [convert, openSource, writeSink]
  rw [hread]
  rfl

/-- what becomes of an image: the settings it stands for, their text, and the image that is made of the text -/
structure Converted (t : Target) (i : Image) (s : Settings) (text : String) (out : Image) : Prop where
  decoded : i.decode t (.defaults t) = .ok s
  encoded : Image.ofSettings s = .ok out
  toJson : jsonOfImage t i.bytes = .ok text
  ofJson : imageOfJson (Outcome.utf8 text) = .ok out
  /-- the same by two runs of the tool, the output of the first being the input of the second -/
  runs : ∀ (args args' : Arguments) (path path' : String) (p p' : Preferences) (fs fs' : Files), p.target = t →
    { args with command := .imageToJson none none }.run path p i.bytes fs = ⟨.done, Outcome.utf8 text, fs⟩ ∧
      { args' with command := .jsonToImage none none }.run path' p' (Outcome.utf8 text) fs' = ⟨.done, out.bytes, fs'⟩

theorem converted_of_decode {i : Image} {t : Target} {s : Settings} (h : i.decode t (.defaults t) = .ok s) :
    ∃ out, Converted t i s (s.toJson.pretty ++ "\n") out := by
  obtain ⟨out, hout, -⟩ := Storage.ofSettings_eq s
  have hto := jsonOfImage_decoded h
  have hof := imageOfJson_text hout
  refine ⟨out, h, hout, hto, hof, fun args args' path path' p p' fs fs' hp => ⟨?_, ?_⟩⟩
  · subst hp
    refine convert_streams ?_ .file fs
    show (jsonOfImage p.target i.bytes).map Outcome.utf8 = _
    rw [hto]
    rfl
  · refine convert_streams ?_ (fun _ => .json) fs'
    show (imageOfJson _).map Image.bytes = _
    rw [hof]
    rfl

/-- **Images survive as JSON.** All settings are read back from their text. An image without a fault is converted to
JSON for every target, and the JSON to exactly the image of the settings that were read from the first one. -/
theorem imageOfJson_jsonOfImage :
    (∀ s : Settings, (Json.parseText s.toJson.pretty).bind Settings.ofJson? = some s) ∧
      ∀ (i : Image) (t : Target), i.check = .ok () → ∃ s text out, Converted t i s text out := by
  refine ⟨Settings.json_lawful.parseText_write, fun i t hcheck => ?_⟩
  have hdecode : ∃ s, i.decode t (.defaults t) = .ok s := by
    rw [Image.decode, hcheck]
    exact ⟨_, rfl⟩
  obtain ⟨s, hs⟩ := hdecode
  obtain ⟨out, hconverted⟩ := converted_of_decode hs
  exact ⟨s, _, out, hconverted⟩

/-- settings that are awkward as text: names with quotes, backslashes, control characters and letters of several bytes,
flags that nobody has declared, numbers at their bounds, and mode conditions with and without a link -/
def awkward : Settings where
  pilot := ⟨⟨"\"\\\n\x01\x7f", by decide⟩, ⟨"ß\t/字🚁", by decide⟩⟩
  features := .ofNat 0xc0000001
  serial := { ports := ⟨[⟨.uart1, .ofNat 0x8101⟩, ⟨.uart2, .empty⟩], by decide⟩ }
  accelerometer := { zero := #v[-32768, 0, 32767] }
  modes := ⟨[⟨.arm, 255, ⟨0, 48⟩, none⟩, ⟨.angle, 0, ⟨0, 0⟩, some .user2⟩], by decide⟩
  beeper := { off := .full }

/-- the image of awkward settings becomes itself again -/
theorem imageOfJson_jsonOfImage_awkward :
    ∃ i : Image, i.check = .ok () ∧ Image.ofSettings awkward = .ok i ∧ ∃ text, Converted .host i awkward text i := by
  obtain ⟨i, hi, hholds⟩ := Storage.ofSettings_eq awkward
  obtain ⟨s, text, out, hconverted⟩ := imageOfJson_jsonOfImage.2 i .host hholds.check_eq
  obtain rfl : s = awkward := Except.ok.inj (hconverted.decoded.symm.trans (hholds.decode_eq .host _))
  obtain rfl : out = i := Except.ok.inj (hconverted.encoded.symm.trans hi)
  exact ⟨out, hholds.check_eq, hi, text, hconverted⟩

end FlightStore.Host
