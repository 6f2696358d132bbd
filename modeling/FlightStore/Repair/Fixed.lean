/-
Values under repair: a value together with whether a rule reports a change.

Rules are run one after the other with `do`; the whole reports a change if one of them does. `assign` replaces a value
and reports whether that made a difference.
-/
namespace FlightStore

/-- a value after a rule, and whether the rule reports a change -/
structure Fixed (α : Type) where
  value : α
  changed : Bool

namespace Fixed

variable {α β : Type}

instance : Monad Fixed where
  pure a := ⟨a, false⟩
  bind x f := ⟨(f x.value).value, x.changed || (f x.value).changed⟩

/-- replaces a value -/
def assign [DecidableEq α] (old new : α) : Fixed α := ⟨new, old ≠ new⟩

/-- replaces a value if a condition holds -/
def assignIf [DecidableEq α] (p : Prop) [Decidable p] (old new : α) : Fixed α :=
  if p then assign old new else pure old

/-- applies a rule to every slot -/
def slots {n : Nat} (f : α → Fixed β) (v : Vector α n) : Fixed (Vector β n) :=
  ⟨v.map fun a => (f a).value, v.toList.any fun a => (f a).changed⟩

end Fixed
end FlightStore
