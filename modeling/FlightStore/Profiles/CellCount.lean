/-
The battery a PID profile is meant for.

A profile stores one signed byte: -1 gives no preference, 0 makes the profile stay (and a fallback for switching), 1
to 8 ask for exactly that many cells. No other byte has a meaning.
-/
namespace FlightStore

inductive CellSelector where
  /-- no preference -/
  | change
  /-- never switched away from -/
  | stay
  /-- for batteries of so many cells -/
  | exact (cells : UInt8)
deriving DecidableEq, Repr

namespace CellSelector

/-- the byte of a profile that stays -/
def stayByte : Int8 := 0

/-- the byte of a profile without preference -/
def changeByte : Int8 := -1

/-- the meaning of a stored byte -/
def ofByte? (b : Int8) : Option CellSelector :=
  if b = changeByte then some .change
  else if b = stayByte then some .stay
  else if 1 ≤ b ∧ b ≤ 8 then some (.exact b.toUInt8)
  else none

/-- the byte that stores a selector -/
def toByte : CellSelector → Int8
  | change => changeByte
  | stay => stayByte
  | exact cells => cells.toInt8

end CellSelector
end FlightStore
