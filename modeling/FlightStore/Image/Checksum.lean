/-
The checksum of an image: the sixteen bit cyclic redundancy check with polynomial 0x1021, bits in reflected order, a
start register of ones and an inverted result. One bit shifts the register by one place; the bytes enter low bit
first.
-/
namespace FlightStore.Image

/-- the polynomial, reflected -/
def polynomial : BitVec 16 := 0x8408#16

/-- shifts the register by one bit -/
def shiftBit (r : BitVec 16) : BitVec 16 := if r.getLsbD 0 then (r >>> 1) ^^^ polynomial else r >>> 1

/-- shifts the register by eight bits -/
def shiftByte (r : BitVec 16) : BitVec 16 :=
  shiftBit (shiftBit (shiftBit (shiftBit (shiftBit (shiftBit (shiftBit (shiftBit r)))))))

/-- the register after one more byte -/
def feed (r : BitVec 16) (b : UInt8) : BitVec 16 := shiftByte (r ^^^ b.toBitVec.setWidth 16)

/-- the checksum of bytes -/
def checksum (bytes : List UInt8) : BitVec 16 := ~~~(bytes.foldl feed (BitVec.allOnes 16))

end FlightStore.Image
