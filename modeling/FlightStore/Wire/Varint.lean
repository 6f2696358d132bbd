/-
Numbers of variable length: seven bits in each byte, the least significant first, and a high bit that tells whether
more bytes follow. Signed numbers alternate (0, -1, 1, -2, …) so that small magnitudes stay short.

Reading takes a width: a number of `w` bits has at most as many bytes as its bits need, and the last of these holds no
bits beyond the width. A number padded with empty bytes is accepted.
-/
namespace FlightStore.Wire

/-- why bytes cannot be read as a value, or a value not be written -/
inductive WireError where
  | unexpectedEnd
  | badVarint
  | badBool
  | badOption
  | badUtf8
  /-- a position that no value of a choice has -/
  | unknownChoice
  /-- more bytes of text or more items than there is room for -/
  | tooLong
  /-- the buffer to write into is too small -/
  | bufferFull
deriving DecidableEq, Repr

/-- the result of reading from the front of a list of bytes: a value and the bytes that follow it -/
abbrev Reading (α : Type) := Except WireError (α × List UInt8)

/-- a number, seven bits to the byte -/
def putVarint (n : Nat) : List UInt8 :=
  if n < 128 then [UInt8.ofNat n] else UInt8.ofNat (n % 128 + 128) :: putVarint (n / 128)

/-- a number of at most the given width -/
def getVarint : Nat → List UInt8 → Reading Nat
  | 0, _ => .error .badVarint
  | _ + 1, [] => .error .unexpectedEnd
  | w + 1, b :: bs =>
    if b.toNat < 128 then
      if b.toNat >>> (w + 1) = 0 then .ok (b.toNat, bs) else .error .badVarint
    else
      match getVarint (w + 1 - 7) bs with
      | .ok (n, bs) => .ok (b.toNat - 128 + 128 * n, bs)
      | .error e => .error e

/-- the place of a signed number in the sequence 0, -1, 1, -2, … -/
def zigzag : Int → Nat
  | .ofNat n => 2 * n
  | .negSucc n => 2 * n + 1

/-- the signed number at a place of the sequence -/
def unzigzag (n : Nat) : Int := if n % 2 = 0 then .ofNat (n / 2) else .negSucc (n / 2)

end FlightStore.Wire
