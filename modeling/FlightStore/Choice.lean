/-
Closed choices: a type whose values are listed once, in a fixed order, each with the name it is written by.

The order is part of the storage format (a value is stored as its position), the names are part of the text formats.
`ofName?` reads a name exactly, `ofNameAnyCase?` regardless of the case of ASCII letters.
-/
namespace FlightStore

/-- a type with a fixed list of values and a name for each of them -/
class Choice (α : Type) where
  /-- every value, in the order of their positions -/
  all : List α
  name : α → String

namespace Choice

variable {α : Type} [Choice α]

/-- the position of a value in the list -/
def index [DecidableEq α] (a : α) : Nat := (all : List α).idxOf a

/-- the value with exactly this name -/
def ofName? (s : String) : Option α := all.find? (fun a => name a = s)

/-- the value with this name, not telling upper from lower case ASCII letters -/
def ofNameAnyCase? (s : String) : Option α := all.find? (fun a => (name a).toLower = s.toLower)

end Choice
end FlightStore
