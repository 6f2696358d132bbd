/-
JSON values.

Objects keep their members in the order of the text, repeated names included. Numbers come in two kinds: whole
numbers, and all others (with a fraction, an exponent or a minus sign before zero), which no setting takes and which
therefore stay as they were written. `broken` stands for text that is well formed but not Unicode (an unpaired
surrogate, stray bytes), and for an object with such a name: it may be skipped over, but it is no value.
-/
namespace FlightStore

inductive Json where
  | null
  | bool (b : Bool)
  | int (i : Int)
  | real (lexeme : String)
  | str (s : String)
  | broken
  | arr (items : List Json)
  | obj (members : List (String × Json))
deriving Repr

namespace Json

/-- the value of the first member with this name -/
def member? (name : String) : Json → Option Json
  | .obj members => members.lookup name
  | _ => none

end Json
end FlightStore
