/-
Settings in an image.

`encode` clears a buffer and writes one record for each group into it. `decode` reads them back: each group takes the
value of the last record that has its number and version and can be read, and is reset for the target if there is none.
Records of unknown groups are skipped. An image with a fault changes nothing.
-/
import FlightStore.Image.Basic
import FlightStore.Settings.Defaults

namespace FlightStore.Image

open FlightStore.Wire

/-- why settings make no image -/
inductive EncodeError where
  /-- the records do not fit -/
  | overflow
  /-- a value has no stored form -/
  | unwritable (error : WireError)
  /-- bytes would be written past the end of the image -/
  | outOfBounds
deriving DecidableEq, Repr

/-- a group that does not fit is an overflow -/
def EncodeError.ofWire : WireError → EncodeError
  | .bufferFull => .overflow
  | e => .unwritable e

/-- replaces bytes of an image from a place on -/
def patch (i : Image) (place : Nat) (bytes : List UInt8) : Except EncodeError Image :=
  (i.patch? place bytes).elim (.error .outOfBounds) .ok

/-- an image being written, and the place of its next record -/
structure Draft where
  image : Image
  offset : Nat

/-- writes the record of a group; its payload has to leave room for the end of the list -/
def Draft.add (s : Settings) (d : Draft) (g : Group) : Except EncodeError Draft :=
  let payloadStart := d.offset + recordHeaderSize
  let payloadEnd := checksumOffset - recordHeaderSize
  if payloadEnd < payloadStart then .error .overflow
  else do
    let payload ← (g.encode (payloadEnd - payloadStart) s).mapError .ofWire
    let image ← d.image.patch payloadStart payload
    let image ← image.patch d.offset (Record.head g.id.number g.version payload.length)
    return ⟨image, payloadStart + payload.length⟩

/-- writes settings over the contents of an image -/
def encode (buffer : Image) (s : Settings) : Except EncodeError Image := do
  let image ← (buffer.fill 0).patch 0 (magic ++ [formatVersion])
  let draft ← groups.foldlM (Draft.add s) ⟨image, headerSize⟩
  draft.image.patch checksumOffset (bigEndian (checksum draft.image.body).toNat)

/-- the image of settings, written over zeros; any fault counts as an overflow -/
def ofSettings (s : Settings) : Except ImageError Image := (encode (filled 0) s).mapError fun _ => .overflow

/-- settings being read, and the groups read so far -/
structure Restored where
  settings : Settings
  loaded : List GroupId

/-- takes over a record if it is of a known group, of its version, and can be read -/
def Restored.step (r : Restored) (rec : Record) : Restored :=
  match GroupId.ofNumber? rec.id with
  | none => r
  | some id =>
    if rec.version ≠ id.group.version then r
    else
      match id.group.decode rec.payload r.settings with
      | .ok s => ⟨s, id :: r.loaded⟩
      | .error _ => r

/-- resets a group that was not read -/
def Restored.resetMissing (t : Target) (loaded : List GroupId) (s : Settings) (g : Group) : Settings :=
  if g.id ∈ loaded then s else g.reset t s

/-- the settings that a list of records stands for -/
def restore (t : Target) (rs : List Record) (s : Settings) : Settings :=
  let r := rs.foldl Restored.step ⟨s, []⟩
  groups.foldl (Restored.resetMissing t r.loaded) r.settings

/-- reads the settings of an image -/
def decode (i : Image) (t : Target) (s : Settings) : Except ImageError Settings :=
  match i.check with
  | .error e => .error e
  | .ok () => .ok (restore t (i.records?.getD []) s)

end FlightStore.Image
