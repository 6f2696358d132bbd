/-
Storage media: anything that holds one image.

Reading and writing may fail, and a medium may store something else than it was given. `save` therefore reads back
what it has written and compares. `load` hands out the stored settings or an error, `intact` tells whether an image
without a fault is stored. Each of them lists the accesses it makes.
-/
import FlightStore.Image.Settings

namespace FlightStore

/-- a medium for one image; its own faults are of type `ε` -/
class Storage (σ : Type) (ε : outParam Type) where
  read : σ → Except ε Image × σ
  write : Image → σ → Except ε Unit × σ

/-- why settings were not loaded or not saved -/
inductive StorageError (ε : Type) where
  /-- a fault of the medium -/
  | medium (fault : ε)
  | image (error : ImageError)
  /-- what was written is not what is stored -/
  | verify
deriving DecidableEq

def ImageError.message : ImageError → String
  | magic => "no settings image found"
  | formatVersion v => "unsupported image format version " ++ toString v.toNat
  | checksum => "image checksum mismatch"
  | truncated => "truncated settings record"
  | overflow => "settings do not fit into image"

/-- the text of an error, given the text of a fault of the medium -/
def StorageError.message {ε : Type} (faultText : ε → String) : StorageError ε → String
  | medium fault => "storage backend error: " ++ faultText fault
  | image error => error.message
  | verify => "read back of written image failed"

namespace Storage

/-- one access to a medium -/
inductive Access where
  | read
  | write
deriving DecidableEq, Repr

/-- what an operation on a medium answers, leaves behind and has done -/
structure Outcome (σ α : Type) where
  result : α
  medium : σ
  accesses : List Access

variable {σ ε : Type} [Storage σ ε]

/-- the settings that are stored, over those in memory -/
def load (t : Target) (s : Settings) (m : σ) : Outcome σ (Except (StorageError ε) Settings) :=
  match Storage.read m with
  | (.error e, m) => ⟨.error (.medium e), m, [.read]⟩
  | (.ok i, m) => ⟨(i.decode t s).mapError .image, m, [.read]⟩

/-- stores an image and reads it back -/
def saveImage (i : Image) (m : σ) : Outcome σ (Except (StorageError ε) Unit) :=
  match Storage.write i m with
  | (.error e, m) => ⟨.error (.medium e), m, [.write]⟩
  | (.ok (), m) =>
    match Storage.read m with
    | (.error e, m) => ⟨.error (.medium e), m, [.write, .read]⟩
    | (.ok j, m) => ⟨if i = j then .ok () else .error .verify, m, [.write, .read]⟩

/-- stores settings and reads them back -/
def save (s : Settings) (m : σ) : Outcome σ (Except (StorageError ε) Unit) :=
  match Image.ofSettings s with
  | .error e => ⟨.error (.image e), m, []⟩
  | .ok i => saveImage i m

/-- whether an image without a fault is stored -/
def intact (m : σ) : Outcome σ Bool :=
  match Storage.read m with
  | (.error _, m) => ⟨false, m, [.read]⟩
  | (.ok i, m) => ⟨i.check.toBool, m, [.read]⟩

end Storage
end FlightStore
