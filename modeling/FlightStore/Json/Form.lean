/-
JSON forms: how values of one type are written as JSON and read back.

Reading is strict about kinds and ranges and answers `none` where a JSON value has not the form. A record is written
as an object with its fields in order. It is read from an object, in any order and skipping members that are no
fields, but never a field twice; or from an array of exactly its fields in order. A field may say what its value is
when an object has no such member (`absent`) or an array ends before it (`short`).
-/
import FlightStore.Bounded
import FlightStore.Choice
import FlightStore.FlagSet.Text
import FlightStore.Json.Value

namespace FlightStore.Json

/-- how values of a type are written as JSON and read back -/
structure Form (α : Type) where
  write : α → Json
  read : Json → Option α

namespace Form

variable {α β γ : Type}

/-- the form of a type that stands for the values of another -/
def map (f : Form β) (split : α → β) (build : β → α) : Form α where
  write a := f.write (split a)
  read j := (f.read j).map build

def bool : Form Bool where
  write := .bool
  read
    | .bool b => some b
    | _ => none

/-- whole numbers of a range -/
def range (lo hi : Int) : Form Int where
  write := .int
  read
    | .int i => if lo ≤ i ∧ i ≤ hi then some i else none
    | _ => none

def u8 : Form UInt8 := (range 0 255).map (fun v => (v.toNat : Int)) (fun i => UInt8.ofNat i.toNat)

def u16 : Form UInt16 := (range 0 65535).map (fun v => (v.toNat : Int)) (fun i => UInt16.ofNat i.toNat)

def i8 : Form Int8 := (range (-128) 127).map Int8.toInt Int8.ofInt

def i16 : Form Int16 := (range (-32768) 32767).map Int16.toInt Int16.ofInt

def text : Form String where
  write := .str
  read
    | .str s => some s
    | _ => none

/-- text with a capacity in bytes -/
def boundedText (n : Nat) : Form (BoundedString n) where
  write s := .str s.text
  read j := (text.read j).bind BoundedString.ofString?

/-- one of the names of a choice, or an object whose only member has that name and no value -/
def choice [Choice α] : Form α where
  write a := .str (Choice.name a)
  read
    | .str s => Choice.ofName? s
    | .obj [(name, .null)] => Choice.ofName? name
    | _ => none

/-- the text form of a set of flags -/
def flags {F : Type} [Flag F] : Form (FlagSet F) where
  write s := .str s.toText
  read j := (text.read j).bind FlagSet.ofText?

/-- the mask of a set of flags as a number -/
def mask {F : Type} [Flag F] : Form (FlagSet F) :=
  (range 0 (FlagSet.full : FlagSet F).toNat).map (fun s => (s.toNat : Int)) (fun i => FlagSet.ofNat i.toNat)

/-- a value or nothing -/
def optional (f : Form α) : Form (Option α) where
  write
    | some a => f.write a
    | none => .null
  read
    | .null => some none
    | j => (f.read j).map some

/-- a list without a bound -/
def list (f : Form α) : Form (List α) where
  write as := .arr (as.map f.write)
  read
    | .arr js => js.mapM f.read
    | _ => none

/-- a list of at most `n` items -/
def boundedList (f : Form α) (n : Nat) : Form (BoundedList α n) where
  write l := f.list.write l.items
  read j := (f.list.read j).bind BoundedList.ofList?

/-- a list of exactly `n` items -/
def vector (f : Form α) (n : Nat) : Form (Vector α n) where
  write v := f.list.write v.toList
  read j := (f.list.read j).bind fun l => if h : l.length = n then some ⟨l.toArray, by simpa using h⟩ else none

end Form

/-! ## Records -/

/-- a field of a record -/
structure Field (α : Type) where
  name : String
  form : Form α
  /-- its value in an object without such a member -/
  absent : Option α
  /-- its value in an array that ends before it -/
  short : Option α

/-- the value of a field in an object: of its only member, or what stands for a missing one -/
def Field.read {α : Type} (f : Field α) (members : List (String × Json)) : Option α :=
  match members.filter (fun m => m.1 = f.name) with
  | [] => f.absent
  | [m] => f.form.read m.2
  | _ => none

/-- the fields of a record, as one nested pair of their values -/
structure Fields (α : Type) where
  write : α → List (String × Json)
  readMembers : List (String × Json) → Option α
  readItems : List Json → Option α

namespace Fields

variable {α β γ : Type}

/-- no field: an array must have ended -/
def nil : Fields Unit where
  write _ := []
  readMembers _ := some ()
  readItems
    | [] => some ()
    | _ => none

/-- one field before the others -/
def cons (f : Field β) (fs : Fields γ) : Fields (β × γ) where
  write v := (f.name, f.form.write v.1) :: fs.write v.2
  readMembers ms := do return (← f.read ms, ← fs.readMembers ms)
  readItems
    | [] => do return (← f.short, ← fs.readItems [])
    | j :: js => do return (← f.form.read j, ← fs.readItems js)

end Fields

/-- the form of a record with these fields -/
def Form.record {α β : Type} (fs : Fields β) (split : α → β) (build : β → α) : Form α where
  write a := .obj (fs.write (split a))
  read
    | .obj ms => (fs.readMembers ms).map build
    | .arr js => (fs.readItems js).map build
    | _ => none

end FlightStore.Json
