/-
Sets of flags, stored as bit masks.

A kind of flag `F` lists its declared flags and gives each one bit of a mask of `Flag.width F` bits. A `FlagSet F` is
any mask of that width: bits that no declared flag owns are kept, because settings written by other firmware may carry
them. The set operations act on all bits. `flags` lists the declared flags of a set and `undeclared` is what remains.
-/
import FlightStore.Choice

namespace FlightStore

/-- a kind of flag: a closed choice in which each value owns one bit of a mask -/
class Flag (F : Type) extends Choice F where
  /-- number of bits of a mask -/
  width : Nat
  /-- the bit that stands for a flag -/
  bit : F → Nat

/-- a set of flags, any mask of the kind's width -/
structure FlagSet (F : Type) [Flag F] where
  bits : BitVec (Flag.width F)

namespace FlagSet

variable {F : Type} [Flag F]

theorem ext {s t : FlagSet F} (h : s.bits = t.bits) : s = t := by
  cases s; cases t; cases h; rfl

instance : DecidableEq (FlagSet F) := fun s t =>
  if h : s.bits = t.bits then isTrue (ext h) else isFalse fun e => h (congrArg bits e)

def empty : FlagSet F := ⟨0#(Flag.width F)⟩

/-- the set with every bit, declared or not -/
def full : FlagSet F := ⟨BitVec.allOnes (Flag.width F)⟩

/-- the set with one declared flag -/
def only (f : F) : FlagSet F := ⟨BitVec.twoPow (Flag.width F) (Flag.bit f)⟩

/-- the set whose mask is `n`, without the bits that do not fit -/
def ofNat (n : Nat) : FlagSet F := ⟨BitVec.ofNat (Flag.width F) n⟩

/-- the mask as a number -/
def toNat (s : FlagSet F) : Nat := s.bits.toNat

instance : Membership F (FlagSet F) := ⟨fun s f => s.bits.getLsbD (Flag.bit f) = true⟩

instance (f : F) (s : FlagSet F) : Decidable (f ∈ s) :=
  inferInstanceAs (Decidable (s.bits.getLsbD (Flag.bit f) = true))

instance : Union (FlagSet F) := ⟨fun s t => ⟨s.bits ||| t.bits⟩⟩

instance : Inter (FlagSet F) := ⟨fun s t => ⟨s.bits &&& t.bits⟩⟩

instance : SDiff (FlagSet F) := ⟨fun s t => ⟨s.bits &&& ~~~t.bits⟩⟩

instance : HasSubset (FlagSet F) := ⟨fun s t => s ∩ t = s⟩

instance (s t : FlagSet F) : Decidable (s ⊆ t) := inferInstanceAs (Decidable (s ∩ t = s))

/-- whether two sets have a bit in common -/
def Meets (s t : FlagSet F) : Prop := s ∩ t ≠ empty

instance (s t : FlagSet F) : Decidable (s.Meets t) := inferInstanceAs (Decidable (s ∩ t ≠ empty))

/-- the set with one more flag -/
def insert (f : F) (s : FlagSet F) : FlagSet F := s ∪ only f

/-- the set without a flag -/
def erase (s : FlagSet F) (f : F) : FlagSet F := s \ only f

/-- the set of the listed flags -/
def ofList (fs : List F) : FlagSet F := fs.foldl (fun s f => s.insert f) empty

/-- every declared flag -/
def declared : FlagSet F := ofList Choice.all

/-- the declared flags of a set, in the order of their declaration -/
def flags (s : FlagSet F) : List F := Choice.all.filter (· ∈ s)

/-- the bits of a set that no declared flag owns -/
def undeclared (s : FlagSet F) : FlagSet F := s \ declared

/-- number of bits in a set, declared or not -/
def count (s : FlagSet F) : Nat := ((List.range (Flag.width F)).filter s.bits.getLsbD).length

end FlagSet
end FlightStore
