/-
Repair of the links between modes.

A link is invalid if it belongs to arming, leads to arming, or leads to a mode that itself follows another one. As
long as there is an invalid link, every condition for the mode of the first one is dropped.
-/
import FlightStore.Modes.Activation
import FlightStore.Repair.Fixed

namespace FlightStore.Repair

/-- whether a condition is an invalid link among these conditions -/
def InvalidLink (cs : List ModeCondition) (c : ModeCondition) : Prop :=
  match c.linkedTo with
  | some leader => c.mode = .arm ∨ leader = .arm ∨ ModeConditions.Linked cs leader
  | none => False

instance (cs : List ModeCondition) (c : ModeCondition) : Decidable (InvalidLink cs c) := by
  unfold InvalidLink; split <;> infer_instance

/-- the first invalid link -/
def firstInvalidLink (cs : List ModeCondition) : Option ModeCondition := cs.find? (fun c => InvalidLink cs c)

theorem length_without_lt {cs : List ModeCondition} {c : ModeCondition} (h : firstInvalidLink cs = some c) :
    (ModeConditions.without cs c.mode).length < cs.length := by
  have hc : c ∈ cs := List.mem_of_find?_eq_some h
  exact List.length_filter_lt_length_iff_exists.2 ⟨c, hc, by simp⟩

/-- drops the modes of invalid links until none is left -/
def dropInvalidLinks (cs : List ModeCondition) : List ModeCondition :=
  match _h : firstInvalidLink cs with
  | none => cs
  | some c => dropInvalidLinks (ModeConditions.without cs c.mode)
termination_by cs.length
decreasing_by exact length_without_lt _h

theorem length_dropInvalidLinks_le (cs : List ModeCondition) : (dropInvalidLinks cs).length ≤ cs.length := by
  fun_induction dropInvalidLinks cs with
  | case1 => exact Nat.le_refl _
  | case2 _ _ _ ih => exact Nat.le_trans ih (List.length_filter_le _ _)

/-- leaves no invalid link -/
def fixModeLinks (l : ModeConditions) : Fixed ModeConditions where
  value := ⟨dropInvalidLinks l.items, Nat.le_trans (length_dropInvalidLinks_le l.items) l.length_le⟩
  changed := (firstInvalidLink l.items).isSome

end FlightStore.Repair
