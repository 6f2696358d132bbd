/-
Schemas: the stored and the written form of one type side by side.

Each settings type is described once, by the schema of a record: its fields in order with their names and schemas. The
wire form lists the field values in that order, the JSON form names them.
-/
import FlightStore.Json.Form
import FlightStore.Wire.Codec

namespace FlightStore

open FlightStore.Wire

/-- the stored and the written form of a type -/
structure Schema (α : Type) where
  wire : Codec α
  json : Json.Form α

namespace Schema

variable {α β γ : Type}

def u8 : Schema UInt8 := ⟨.u8, .u8⟩

def u16 : Schema UInt16 := ⟨.u16, .u16⟩

def i8 : Schema Int8 := ⟨.i8, .i8⟩

def i16 : Schema Int16 := ⟨.i16, .i16⟩

def bool : Schema Bool := ⟨.bool, .bool⟩

def choice [DecidableEq α] [Choice α] : Schema α := ⟨.choice, .choice⟩

def boundedText (n : Nat) : Schema (BoundedString n) := ⟨.boundedText n, .boundedText n⟩

/-- a set of flags, written by the names of the flags -/
def flags {F : Type} [Flag F] : Schema (FlagSet F) := ⟨.flags, .flags⟩

/-- a set of flags, written as a number -/
def mask {F : Type} [Flag F] : Schema (FlagSet F) := ⟨.flags, .mask⟩

def optional (s : Schema α) : Schema (Option α) := ⟨s.wire.optional, s.json.optional⟩

def boundedList (s : Schema α) (n : Nat) : Schema (BoundedList α n) :=
  ⟨s.wire.boundedList n, s.json.boundedList n⟩

def vector (s : Schema α) (n : Nat) : Schema (Vector α n) := ⟨s.wire.vector n, s.json.vector n⟩

/-- the schema of a type that stands for the values of another -/
def map (s : Schema β) (split : α → β) (build : β → α) : Schema α :=
  ⟨s.wire.map split build, s.json.map split build⟩

/-- the fields of a record, as one nested pair of their values -/
structure Fields (α : Type) where
  wire : Codec α
  json : Json.Fields α

/-- no field -/
def done : Fields Unit := ⟨.unit, .nil⟩

/-- a field before the others; an object without it is refused -/
def field (name : String) (s : Schema β) (fs : Fields γ) : Fields (β × γ) :=
  ⟨s.wire.pair fs.wire, .cons ⟨name, s.json, none, none⟩ fs.json⟩

/-- a field before the others that an object may leave out -/
def fieldOr (name : String) (absent : β) (s : Schema β) (fs : Fields γ) : Fields (β × γ) :=
  ⟨s.wire.pair fs.wire, .cons ⟨name, s.json, some absent, none⟩ fs.json⟩

/-- the schema of a record with these fields -/
def record (fs : Fields β) (split : α → β) (build : β → α) : Schema α :=
  ⟨fs.wire.map split build, .record fs.json split build⟩

end Schema
end FlightStore
