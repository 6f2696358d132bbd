/-
Images: the 4096 bytes in which all settings are stored.

An image starts with the letters FC, a format version and a reserved byte. Records follow, then zeros, and the last
two bytes are the checksum of all before it, high byte first. `check` answers the first fault it finds: wrong letters,
another format version, a wrong checksum, records without an end.
-/
import FlightStore.Image.Checksum
import FlightStore.Image.Record

namespace FlightStore

namespace Image

/-- number of bytes of an image -/
def size : Nat := 4096

/-- number of bytes in front of the records -/
def headerSize : Nat := 4

/-- place of the checksum -/
def checksumOffset : Nat := size - 2

/-- room for records and the end of their list -/
def dataSize : Nat := checksumOffset - headerSize

/-- the letters that an image starts with -/
def magic : List UInt8 := [0x46, 0x43]

def formatVersion : UInt8 := 1

end Image

/-- why an image is no settings image, or settings make no image -/
inductive ImageError where
  /-- it does not start with the letters of an image -/
  | magic
  | formatVersion (version : UInt8)
  | checksum
  /-- a record reaches past the end, or there is no end of the records -/
  | truncated
  /-- the settings do not fit -/
  | overflow
deriving DecidableEq, Repr

/-- a block of exactly the bytes that storage holds -/
structure Image where
  bytes : List UInt8
  length_eq : bytes.length = Image.size
deriving DecidableEq

namespace Image

/-- the bytes as an image, if their number is right -/
def ofBytes? (bytes : List UInt8) : Option Image :=
  if h : bytes.length = size then some ⟨bytes, h⟩ else none

/-- an image of one byte, over and over -/
def filled (b : UInt8) : Image := ⟨List.replicate size b, by simp⟩

/-- storage that was never written -/
def erased : Image := filled 0xff

/-- what the checksum is computed over -/
def body (i : Image) : List UInt8 := i.bytes.take checksumOffset

/-- the records and what follows them -/
def data (i : Image) : List UInt8 := i.body.drop headerSize

/-- the last two bytes -/
def storedChecksum (i : Image) : Nat :=
  ofBigEndian (i.bytes.getD checksumOffset 0) (i.bytes.getD (checksumOffset + 1) 0)

/-- the records of an image, if their list has an end -/
def records? (i : Image) : Option (List Record) := Record.readAll i.data

/-- looks for faults, in a fixed order -/
def check (i : Image) : Except ImageError Unit :=
  if i.bytes.take 2 ≠ magic then .error .magic
  else if i.bytes.getD 2 0 ≠ formatVersion then .error (.formatVersion (i.bytes.getD 2 0))
  else if (checksum i.body).toNat ≠ i.storedChecksum then .error .checksum
  else if i.records? = none then .error .truncated
  else .ok ()

/-- what stands in front of the records: letters, version and the reserved byte -/
def header : List UInt8 := magic ++ [formatVersion, 0]

/-- the stored form of a list of records -/
def recordBytes (rs : List Record) : List UInt8 := rs.flatMap Record.bytes

/-- sets every byte -/
def fill (i : Image) (b : UInt8) : Image := ⟨i.bytes.map fun _ => b, by rw [List.length_map, i.length_eq]⟩

/-- the image with other bytes from a place on, if they end within it -/
def patch? (i : Image) (place : Nat) (bytes : List UInt8) : Option Image :=
  if h : place + bytes.length ≤ size then
    some ⟨i.bytes.take place ++ bytes ++ i.bytes.drop (place + bytes.length), by
      simp only [List.length_append, List.length_take, List.length_drop, i.length_eq]
      omega⟩
  else none

end Image
end FlightStore
