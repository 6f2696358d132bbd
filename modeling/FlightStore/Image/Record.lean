/-
Records: how groups follow each other in an image.

A record is the number of its group (two bytes, high byte first), a version byte, the length of its payload (two
bytes) and the payload. A record number zero ends the list; there must be room for a whole header behind the last
record, and no payload may reach past the end of the data.
-/
namespace FlightStore.Image

/-- number of bytes in front of a payload -/
def recordHeaderSize : Nat := 5

structure Record where
  id : UInt16
  version : UInt8
  payload : List UInt8
deriving DecidableEq, Repr

/-- a number in two bytes, high byte first -/
def bigEndian (n : Nat) : List UInt8 := [UInt8.ofNat (n / 256), UInt8.ofNat n]

/-- the number that two bytes stand for, high byte first -/
def ofBigEndian (hi lo : UInt8) : Nat := hi.toNat * 256 + lo.toNat

namespace Record

/-- number of bytes of a record -/
def size (r : Record) : Nat := recordHeaderSize + r.payload.length

/-- what stands in front of a payload -/
def head (id : UInt16) (version : UInt8) (length : Nat) : List UInt8 :=
  bigEndian id.toNat ++ version :: bigEndian length

/-- the stored form of a record -/
def bytes (r : Record) : List UInt8 := head r.id r.version r.payload.length ++ r.payload

/-- the records at the start of the data, up to the number zero; `none` if the data ends before it -/
def readAll (data : List UInt8) : Option (List Record) :=
  match data with
  | i₁ :: i₂ :: version :: l₁ :: l₂ :: rest =>
    let id := ofBigEndian i₁ i₂
    let length := ofBigEndian l₁ l₂
    if id = 0 then some []
    else if length ≤ rest.length then
      (readAll (rest.drop length)).map (⟨UInt16.ofNat id, version, rest.take length⟩ :: ·)
    else none
  | _ => none
termination_by data.length
decreasing_by simp only [List.length_drop, List.length_cons]; omega

end Record
end FlightStore.Image
