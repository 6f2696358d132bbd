/-
Codecs: how values of one type are written as bytes and read back from the front of a list of bytes.

Nothing on the wire names or delimits a value. Single bytes stand for themselves, wider numbers have variable length, a
choice is the position of its value, text and lists start with their length, records and fixed arrays are their parts
one after the other. Each codec reads exactly what it has written and leaves the bytes behind it alone.
-/
import FlightStore.Bounded
import FlightStore.Choice
import FlightStore.FlagSet.Basic
import FlightStore.Wire.Varint

namespace FlightStore.Wire

/-- how values of a type are written as bytes and read back -/
structure Codec (α : Type) where
  put : α → List UInt8
  get : List UInt8 → Reading α

namespace Codec

variable {α β γ : Type}

/-- the codec of a type that stands for the values of another -/
def map (c : Codec β) (split : α → β) (build : β → α) : Codec α where
  put a := c.put (split a)
  get bs := (c.get bs).map fun (b, rest) => (build b, rest)

/-- the codec of a type that stands for some of the values of another -/
def filterMap (c : Codec β) (split : α → β) (build : β → Except WireError α) : Codec α where
  put a := c.put (split a)
  get bs :=
    match c.get bs with
    | .ok (b, rest) => (build b).map (·, rest)
    | .error e => .error e

def u8 : Codec UInt8 where
  put b := [b]
  get
    | [] => .error .unexpectedEnd
    | b :: bs => .ok (b, bs)

def i8 : Codec Int8 := u8.map Int8.toUInt8 UInt8.toInt8

/-- numbers of at most `w` bits -/
def varint (w : Nat) : Codec Nat where
  put := putVarint
  get := getVarint w

def u16 : Codec UInt16 := (varint 16).map UInt16.toNat UInt16.ofNat

def i16 : Codec Int16 := (varint 16).map (fun v => zigzag v.toInt) (fun n => Int16.ofInt (unzigzag n))

/-- the number of bytes or items that follow -/
def length : Codec Nat := varint 64

def bool : Codec Bool :=
  u8.filterMap (fun b => if b then 1 else 0) fun b =>
    if b = 0 then .ok false else if b = 1 then .ok true else .error .badBool

def choice [DecidableEq α] [Choice α] : Codec α :=
  (varint 32).filterMap Choice.index fun n =>
    match (Choice.all : List α)[n]? with
    | some a => .ok a
    | none => .error .unknownChoice

/-- the mask of a set of flags -/
def flags {F : Type} [Flag F] : Codec (FlagSet F) := (varint (Flag.width F)).map FlagSet.toNat FlagSet.ofNat

/-- one thing after the other -/
def pair (c : Codec β) (d : Codec γ) : Codec (β × γ) where
  put v := c.put v.1 ++ d.put v.2
  get bs :=
    match c.get bs with
    | .ok (b, bs) => (d.get bs).map fun (v, rest) => ((b, v), rest)
    | .error e => .error e

def unit : Codec Unit where
  put _ := []
  get bs := .ok ((), bs)

/-- a byte that tells whether a value follows -/
def optional (c : Codec α) : Codec (Option α) where
  put
    | none => [0]
    | some a => 1 :: c.put a
  get
    | [] => .error .unexpectedEnd
    | b :: bs =>
      if b = 0 then .ok (none, bs)
      else if b = 1 then (c.get bs).map fun (a, rest) => (some a, rest)
      else .error .badOption

/-- the first `n` bytes -/
def takeBytes (n : Nat) (bs : List UInt8) : Reading (List UInt8) :=
  if n ≤ bs.length then .ok (bs.take n, bs.drop n) else .error .unexpectedEnd

/-- bytes as text of at most `n` bytes -/
def textOfBytes (n : Nat) (bytes : List UInt8) : Except WireError (BoundedString n) :=
  match String.fromUTF8? (ByteArray.mk bytes.toArray) with
  | none => .error .badUtf8
  | some s =>
    match BoundedString.ofString? s with
    | none => .error .tooLong
    | some s => .ok s

/-- text of at most `n` bytes, after their number -/
def boundedText (n : Nat) : Codec (BoundedString n) where
  put s := length.put s.text.utf8ByteSize ++ s.text.toUTF8.data.toList
  get bs :=
    match length.get bs with
    | .error e => .error e
    | .ok (size, bs) =>
      match takeBytes size bs with
      | .error e => .error e
      | .ok (bytes, rest) => (textOfBytes n bytes).map (·, rest)

/-- reads `count` items into a list with room for `room`; an item without room is read before it is refused -/
def getItems (c : Codec α) : Nat → (room : Nat) → List UInt8 → Reading (BoundedList α room)
  | 0, _, bs => .ok (.empty, bs)
  | count + 1, room, bs =>
    match c.get bs with
    | .error e => .error e
    | .ok (a, bs) =>
      match room with
      | 0 => .error .tooLong
      | room + 1 => (getItems c count room bs).map fun (l, rest) => (l.cons a, rest)

/-- a list of at most `n` items, after their number -/
def boundedList (c : Codec α) (n : Nat) : Codec (BoundedList α n) where
  put l := length.put l.items.length ++ l.items.flatMap c.put
  get bs :=
    match length.get bs with
    | .error e => .error e
    | .ok (count, bs) => c.getItems count n bs

/-- exactly `n` items, one after the other -/
def getVector (c : Codec α) : (n : Nat) → List UInt8 → Reading (Vector α n)
  | 0, bs => .ok (#v[], bs)
  | n + 1, bs =>
    match c.getVector n bs with
    | .error e => .error e
    | .ok (v, bs) => (c.get bs).map fun (a, rest) => (v.push a, rest)

/-- a fixed array: its items and nothing else -/
def vector (c : Codec α) (n : Nat) : Codec (Vector α n) where
  put v := v.toList.flatMap c.put
  get := c.getVector n

/-- writes into a buffer of a size; what does not fit is refused -/
def putInto (c : Codec α) (size : Nat) (a : α) : Except WireError (List UInt8) :=
  if (c.put a).length ≤ size then .ok (c.put a) else .error .bufferFull

/-- the value that bytes start with; bytes behind it are ignored -/
def read (c : Codec α) (bytes : List UInt8) : Except WireError α := (c.get bytes).map Prod.fst

end Codec
end FlightStore.Wire
