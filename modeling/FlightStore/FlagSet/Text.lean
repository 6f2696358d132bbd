/-
The text form of a set of flags.

A set is written as the names of its declared flags, in the order of their declaration, joined by ` | `; bits without
a declared flag come last, as one mask in base sixteen after `0x`. The empty set is the empty text.

Reading is more liberal: blanks around each part are ignored, parts may come in any order and repeat, and a mask may
hold any bits of the kind's width.
-/
import FlightStore.FlagSet.Basic
import FlightStore.Text.Blank
import FlightStore.Text.Digits

namespace FlightStore.FlagSet

open FlightStore.Text

variable {F : Type} [Flag F]

/-- the parts of the written form: one name for each declared flag, then the mask of the other bits -/
def parts (s : FlagSet F) : List (List Char) :=
  s.flags.map (fun f => (Choice.name f).toList) ++
    if s.undeclared = empty then [] else ['0' :: 'x' :: hex s.undeclared.toNat]

def toChars (s : FlagSet F) : List Char := [' ', '|', ' '].intercalate s.parts

def toText (s : FlagSet F) : String := String.ofList s.toChars

/-- reads a mask written in base sixteen, if it has no more bits than the kind of flag -/
def ofMask? (digits : List Char) : Option (FlagSet F) :=
  match hexValue? (afterPlus digits) with
  | some n => if n ≤ (full : FlagSet F).toNat then some (ofNat n) else none
  | none => none

/-- reads one part: a mask or the name of a declared flag -/
def ofPart? : List Char → Option (FlagSet F)
  | '0' :: 'x' :: digits => ofMask? digits
  | name => (Choice.ofName? (String.ofList name)).map only

/-- reads the parts of a text that is not blank -/
def ofParts? (parts : List (List Char)) : Option (FlagSet F) :=
  parts.foldlM (fun s part => (ofPart? (trim part)).map (s ∪ ·)) empty

def ofChars? (cs : List Char) : Option (FlagSet F) :=
  if cs.all isBlank then some empty else ofParts? (cs.splitOn '|')

def ofText? (s : String) : Option (FlagSet F) := ofChars? s.toList

end FlightStore.FlagSet
