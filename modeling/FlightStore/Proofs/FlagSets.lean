/-
Laws of flag sets.

A set is its bits (`ext_bits`), every operation acts on each bit alone, and two sets meet where they share a bit
(`meets_iff`). A kind of flag is lawful if its flags own distinct bits of the mask. Then a flag is in `only g` for itself
alone, and `Meets` against listed flags is membership of one of them.
-/
import Mathlib.Tactic
import FlightStore.Board.Capability
import FlightStore.Equipment.Beeper
import FlightStore.Ports.Serial

namespace FlightStore

/-- the flags of a kind own distinct bits of its mask -/
class LawfulFlag (F : Type) [Flag F] : Prop where
  bit_lt : ∀ f : F, Flag.bit f < Flag.width F
  find_bit : ∀ f : F, Choice.all.find? (fun g => Flag.bit g = Flag.bit f) = some f

theorem LawfulFlag.bit_inj {F : Type} [Flag F] [LawfulFlag F] {f g : F} : Flag.bit f = Flag.bit g ↔ f = g := by
  refine ⟨fun h => ?_, fun h => h ▸ rfl⟩
  have hf := find_bit f
  rw [h, find_bit g] at hf
  exact (Option.some.inj hf).symm

instance : LawfulFlag Feature := ⟨fun f => by cases f <;> decide, fun f => by cases f <;> rfl⟩

instance : LawfulFlag Capability := ⟨fun c => by cases c <;> decide, fun c => by cases c <;> rfl⟩

instance : LawfulFlag SerialFunction := ⟨fun f => by cases f <;> decide, fun f => by cases f <;> rfl⟩

instance : LawfulFlag BeeperEvent := ⟨fun e => by cases e <;> decide, fun e => by cases e <;> rfl⟩

namespace FlagSet

variable {F : Type} [Flag F] {s t u : FlagSet F} {f g : F}

/-! ## Bits -/

theorem ext_bits (h : ∀ i, s.bits.getLsbD i = t.bits.getLsbD i) : s = t :=
  ext (BitVec.eq_of_getLsbD_eq fun i _ => h i)

@[simp] theorem getLsbD_empty (i : Nat) : (empty : FlagSet F).bits.getLsbD i = false := BitVec.getLsbD_zero

@[simp] theorem getLsbD_union (s t : FlagSet F) (i : Nat) :
    (s ∪ t).bits.getLsbD i = (s.bits.getLsbD i || t.bits.getLsbD i) := BitVec.getLsbD_or

@[simp] theorem getLsbD_inter (s t : FlagSet F) (i : Nat) :
    (s ∩ t).bits.getLsbD i = (s.bits.getLsbD i && t.bits.getLsbD i) := BitVec.getLsbD_and

@[simp] theorem getLsbD_sdiff (s t : FlagSet F) (i : Nat) :
    (s \ t).bits.getLsbD i = (s.bits.getLsbD i && !t.bits.getLsbD i) := by
  have h : (s \ t).bits.getLsbD i = (s.bits.getLsbD i && (decide (i < Flag.width F) && !t.bits.getLsbD i)) :=
    BitVec.getLsbD_and.trans (by rw [BitVec.getLsbD_not])
  rw [h]
  by_cases hi : i < Flag.width F
  · simp [hi]
  · simp [BitVec.getLsbD_of_ge s.bits i (by omega)]

/-- two sets meet where they share a bit -/
theorem meets_iff : s.Meets t ↔ ∃ i, s.bits.getLsbD i = true ∧ t.bits.getLsbD i = true := by
  constructor
  · intro h
    by_contra hn
    push Not at hn
    refine h (ext_bits fun i => ?_)
    have := hn i
    simp only [getLsbD_inter, getLsbD_empty]
    cases hs : s.bits.getLsbD i <;> simp_all
  · rintro ⟨i, hs, ht⟩ he
    have := congrArg (fun r : FlagSet F => r.bits.getLsbD i) he
    simp [hs, ht] at this

theorem subset_iff : s ⊆ t ↔ ∀ i, s.bits.getLsbD i = true → t.bits.getLsbD i = true := by
  constructor
  · intro h i hi
    have he : s ∩ t = s := h
    have := congrArg (fun r : FlagSet F => r.bits.getLsbD i) he
    simpa [hi] using this
  · intro h
    refine ext_bits fun i => ?_
    have := h i
    cases hs : s.bits.getLsbD i <;> simp_all

/-! ## Differences -/

theorem sdiff_eq_self (h : ¬ s.Meets t) : s \ t = s := by
  refine ext_bits fun i => ?_
  cases hs : s.bits.getLsbD i
  · simp [hs]
  · cases ht : t.bits.getLsbD i
    · simp [hs, ht]
    · exact absurd (meets_iff.2 ⟨i, hs, ht⟩) h

theorem not_meets_sdiff (s t : FlagSet F) : ¬ (s \ t).Meets t := by
  rw [meets_iff]
  rintro ⟨i, hs, ht⟩
  simp [ht] at hs

theorem sdiff_subset (s t : FlagSet F) : s \ t ⊆ s := subset_iff.2 fun i h => by simp_all

theorem not_meets_mono (h : ¬ t.Meets u) (hs : s ⊆ t) : ¬ s.Meets u := by
  rw [meets_iff] at *
  rintro ⟨i, h1, h2⟩
  exact h ⟨i, subset_iff.1 hs i h1, h2⟩

theorem not_mem_mono (h : f ∉ t) (hs : s ⊆ t) : f ∉ s := fun hf => h (subset_iff.1 hs _ hf)

theorem meets_comm : s.Meets t ↔ t.Meets s := by simp only [meets_iff, and_comm]

theorem union_meets : (s ∪ t).Meets u ↔ s.Meets u ∨ t.Meets u := by
  simp only [meets_iff, getLsbD_union, Bool.or_eq_true, or_and_right, exists_or]

@[simp] theorem not_meets_empty (s : FlagSet F) : ¬ s.Meets empty := by simp [meets_iff]

theorem sdiff_sdiff (s t u : FlagSet F) : (s \ t) \ u = s \ (t ∪ u) :=
  ext_bits fun i => by simp [Bool.and_assoc]

@[simp] theorem sdiff_empty (s : FlagSet F) : s \ empty = s := sdiff_eq_self (not_meets_empty s)

theorem count_le_of_subset (h : s ⊆ t) : s.count ≤ t.count := by
  simp only [count, ← List.countP_eq_length_filter]
  exact List.countP_mono_left fun i _ => subset_iff.1 h i

/-! ## Membership -/

theorem mem_iff : f ∈ s ↔ s.bits.getLsbD (Flag.bit f) = true := Iff.rfl

@[simp] theorem not_mem_empty : f ∉ (empty : FlagSet F) := by simp [mem_iff]

@[simp] theorem mem_union : f ∈ s ∪ t ↔ f ∈ s ∨ f ∈ t := by simp [mem_iff]

@[simp] theorem mem_sdiff : f ∈ s \ t ↔ f ∈ s ∧ f ∉ t := by simp [mem_iff]

section

variable [LawfulFlag F]

theorem getLsbD_only (f : F) (i : Nat) : (only f).bits.getLsbD i = decide (Flag.bit f = i) := by
  have h := LawfulFlag.bit_lt f
  simp only [only, BitVec.getLsbD_twoPow]
  by_cases hi : Flag.bit f = i
  · subst hi; simp [h]
  · simp [hi]

@[simp] theorem mem_only : f ∈ only g ↔ f = g := by
  rw [mem_iff, getLsbD_only, decide_eq_true_iff, LawfulFlag.bit_inj, eq_comm]

@[simp] theorem mem_insert : f ∈ insert g s ↔ f ∈ s ∨ f = g := by simp [insert]

@[simp] theorem mem_erase : f ∈ s.erase g ↔ f ∈ s ∧ f ≠ g := by simp [erase]

@[simp] theorem meets_only : s.Meets (only f) ↔ f ∈ s := by
  simp [meets_iff, getLsbD_only, mem_iff]

theorem getLsbD_ofList (fs : List F) (i : Nat) : (ofList fs).bits.getLsbD i = true ↔ ∃ f ∈ fs, Flag.bit f = i := by
  suffices h : ∀ s : FlagSet F, (fs.foldl (fun s f => s.insert f) s).bits.getLsbD i = true ↔
      s.bits.getLsbD i = true ∨ ∃ f ∈ fs, Flag.bit f = i by
    simpa [ofList] using h empty
  induction fs with
  | nil => simp
  | cons g fs ih =>
    intro s
    rw [List.foldl_cons, ih]
    simp [insert, getLsbD_only, or_assoc]

theorem mem_ofList {fs : List F} : f ∈ ofList fs ↔ f ∈ fs := by
  rw [mem_iff, getLsbD_ofList]
  simp [LawfulFlag.bit_inj]

theorem mem_declared (f : F) : f ∈ (declared : FlagSet F) :=
  mem_ofList.2 (List.mem_of_find?_eq_some (LawfulFlag.find_bit f))

/-- a declared flag adds no other bit -/
theorem undeclared_insert (f : F) (s : FlagSet F) : (s.insert f).undeclared = s.undeclared := by
  refine ext_bits fun i => ?_
  simp only [undeclared, insert, getLsbD_sdiff, getLsbD_union, getLsbD_only]
  by_cases hi : Flag.bit f = i
  · have hdeclared : (declared : FlagSet F).bits.getLsbD i = true := hi ▸ mem_declared f
    simp [hdeclared]
  · simp [hi]

theorem meets_erase_ofList {fs : List F} : s.Meets ((ofList fs).erase g) ↔ ∃ f ∈ fs, f ≠ g ∧ f ∈ s := by
  constructor
  · rw [meets_iff]
    rintro ⟨i, hs, hi⟩
    simp only [erase, getLsbD_sdiff, getLsbD_only, Bool.and_eq_true, Bool.not_eq_true', decide_eq_false_iff_not] at hi
    obtain ⟨f, hf, rfl⟩ := (getLsbD_ofList fs i).1 hi.1
    exact ⟨f, hf, fun e => hi.2 (e ▸ rfl), hs⟩
  · rintro ⟨f, hf, hne, hs⟩
    exact meets_iff.2 ⟨Flag.bit f, hs, mem_erase.2 ⟨mem_ofList.2 hf, hne⟩⟩

end

end FlagSet
end FlightStore
