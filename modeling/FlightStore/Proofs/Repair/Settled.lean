/-
Values that a rule has nothing to do on.

`Fixed` is a lawful monad: a sequence of rules that all leave a value alone and report nothing leaves it alone. That a
rule has nothing to do on `a` is the equation `rule a = pure a`; the lemmas here give it for each building block.
-/
import Mathlib.Tactic
import FlightStore.Proofs.FlagSets
import FlightStore.Repair.Radio

namespace FlightStore

namespace Fixed

variable {α β : Type}

theorem bind_bind {γ : Type} (x : Fixed α) (f : α → Fixed β) (g : β → Fixed γ) :
    (x >>= f) >>= g = x >>= fun a => f a >>= g :=
  congrArg (Fixed.mk _) (Bool.or_assoc x.changed (f x.value).changed (g (f x.value).value).changed)

instance : LawfulMonad Fixed :=
  LawfulMonad.mk' Fixed (fun x => congrArg (Fixed.mk x.value) (Bool.or_false x.changed)) (fun _ _ => rfl) bind_bind

@[simp] theorem value_pure (a : α) : (pure a : Fixed α).value = a := rfl

@[simp] theorem value_bind (x : Fixed α) (f : α → Fixed β) : (x >>= f).value = (f x.value).value := rfl

@[simp] theorem value_map (f : α → β) (x : Fixed α) : (f <$> x).value = f x.value := rfl

@[simp] theorem value_assign [DecidableEq α] (old new : α) : (assign old new).value = new := rfl

@[simp] theorem value_assignIf [DecidableEq α] (p : Prop) [Decidable p] (old new : α) :
    (assignIf p old new).value = if p then new else old := by
  unfold assignIf
  split <;> rfl

/-- what a rule only switches off was on before if it is on afterwards -/
theorem of_value_assignIf_false {p : Prop} [Decidable p] {old : Bool} (h : (assignIf p old false).value = true) :
    old = true := by
  rw [value_assignIf] at h
  split_ifs at h
  exact h

@[simp] theorem value_slots {n : Nat} (f : α → Fixed β) (v : Vector α n) :
    (slots f v).value = v.map fun a => (f a).value := rfl

@[simp] theorem assign_self [DecidableEq α] (a : α) : assign a a = pure a := by
  show (⟨a, decide (a ≠ a)⟩ : Fixed α) = ⟨a, false⟩
  simp

theorem assignIf_eq_pure [DecidableEq α] {p : Prop} [Decidable p] {old new : α} (h : p → old = new) :
    assignIf p old new = pure old := by
  unfold assignIf
  split_ifs with hp
  · rw [← h hp, assign_self]
  · rfl

theorem assignIf_neg [DecidableEq α] {p : Prop} [Decidable p] {old new : α} (h : ¬ p) :
    assignIf p old new = pure old := if_neg h

/-- what a rule makes of each slot holds of all slots after it -/
theorem forall_mem_slots {n : Nat} {f : α → Fixed β} {v : Vector α n} {P : β → Prop} (h : ∀ a ∈ v, P (f a).value) :
    ∀ b ∈ (slots f v).value, P b := by
  intro b hb
  obtain ⟨a, ha, rfl⟩ := Vector.mem_map.1 hb
  exact h a ha

/-- a rule without effect on any slot has none on the slots -/
theorem slots_eq_pure {n : Nat} {f : α → Fixed α} {v : Vector α n} (h : ∀ a ∈ v, f a = pure a) :
    slots f v = pure v := by
  have hv : (v.map fun a => (f a).value) = v := by
    ext i hi
    simp [h v[i] (Vector.getElem_mem hi)]
  have hc : (v.toList.any fun a => (f a).changed) = false := by
    rw [List.any_eq_false]
    intro a ha
    rw [h a (Vector.mem_toList_iff.1 ha)]
    exact Bool.false_ne_true
  unfold slots
  rw [hv, hc]
  rfl

end Fixed

namespace Repair

@[simp] theorem value_disable (s fs : FeatureSet) : (disable s fs).value = s \ fs := rfl

theorem disable_eq_pure {s fs : FeatureSet} (h : ¬ s.Meets fs) : disable s fs = pure s := by
  show (⟨s \ fs, decide (s.Meets fs)⟩ : Fixed FeatureSet) = ⟨s, false⟩
  rw [FlagSet.sdiff_eq_self h, decide_eq_false h]

end Repair
end FlightStore
