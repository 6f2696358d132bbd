/-
Text and lists with a capacity.

A `BoundedString n` holds at most `n` bytes of UTF-8 and a `BoundedList α n` at most `n` items. The bound is part of
the value, so no operation on settings can outgrow the room the storage format has for them.
-/
namespace FlightStore

/-- text of at most `n` bytes in UTF-8 -/
structure BoundedString (n : Nat) where
  text : String
  size_le : text.utf8ByteSize ≤ n
deriving DecidableEq

namespace BoundedString

variable {n : Nat}

theorem ext {s t : BoundedString n} (h : s.text = t.text) : s = t := by
  cases s; cases t; cases h; rfl

def empty : BoundedString n := ⟨"", by simp⟩

/-- the text, if it fits -/
def ofString? (s : String) : Option (BoundedString n) :=
  if h : s.utf8ByteSize ≤ n then some ⟨s, h⟩ else none

/-- appends a character; without room for it the text stays as it is -/
def push (s : BoundedString n) (c : Char) : BoundedString n :=
  (ofString? (s.text.push c)).getD s

/-- pushes one character after the other, leaving out those that find no room -/
def ofChars (cs : List Char) : BoundedString n := cs.foldl push empty

theorem ofString?_text (s : BoundedString n) : ofString? s.text = some s := by
  simp [ofString?, s.size_le]

end BoundedString

/-- a list of at most `n` items -/
structure BoundedList (α : Type) (n : Nat) where
  items : List α
  length_le : items.length ≤ n
deriving DecidableEq

namespace BoundedList

variable {α : Type} {n : Nat}

theorem ext {l m : BoundedList α n} (h : l.items = m.items) : l = m := by
  cases l; cases m; cases h; rfl

def empty : BoundedList α n := ⟨[], Nat.zero_le n⟩

/-- the list, if it fits -/
def ofList? (items : List α) : Option (BoundedList α n) :=
  if h : items.length ≤ n then some ⟨items, h⟩ else none

/-- puts an item in front, into a list with room for one more -/
def cons (a : α) (l : BoundedList α n) : BoundedList α (n + 1) :=
  ⟨a :: l.items, Nat.succ_le_succ l.length_le⟩

/-- appends an item, if there is room -/
def push? (l : BoundedList α n) (a : α) : Option (BoundedList α n) := ofList? (l.items ++ [a])

/-- changes every item, keeping their number -/
def map {β : Type} (f : α → β) (l : BoundedList α n) : BoundedList β n :=
  ⟨l.items.map f, by simpa using l.length_le⟩

/-- keeps the items that satisfy `p`, in their order -/
def filter (p : α → Bool) (l : BoundedList α n) : BoundedList α n :=
  ⟨l.items.filter p, Nat.le_trans (List.length_filter_le p l.items) l.length_le⟩

theorem ofList?_items (l : BoundedList α n) : ofList? l.items = some l := by
  simp [ofList?, l.length_le]

end BoundedList
end FlightStore
