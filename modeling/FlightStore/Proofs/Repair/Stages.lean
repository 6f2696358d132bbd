/-
A rule within a pass.

`found` are the settings that a rule finds in a pass: those from before it, after the rules in front of the rule. What
each rule in front keeps, the rule still finds (`found_keeps`), together with the facts that they leave behind
(`found_holds`). What a rule makes of these settings, and every rule behind it keeps, holds after the pass
(`repair_keeps`). For a part of the settings that the other rules leave alone these are the equations `found_eq` and
`repair_eq`. The last rule is the only one that writes the system group, so a pass does to that group what this rule
does (`system_repair`).
-/
import FlightStore.Proofs.Repair.Fixpoint

namespace FlightStore.Repair

variable {t : Target} {sensor : SensorModel} {s : Settings}

/-- what each of some rules keeps lasts through a run of them -/
theorem run_keeps {P : Settings → Prop} {rs : List Rule}
    (hkeep : ∀ r ∈ rs, ∀ s, P s → P (r.apply t sensor s).value) (p : Pass) (h : P p.settings) :
    P (rs.foldl (Pass.step t sensor) p).settings := by
  induction rs generalizing p with
  | nil => exact h
  | cons r rs ih =>
    have hstep : P (Pass.step t sensor p r).settings := hkeep r List.mem_cons_self p.settings h
    exact ih (fun q hq => hkeep q (List.mem_cons_of_mem r hq)) (Pass.step t sensor p r) hstep

/-- what each of some rules leaves alone is the same after a run of them -/
theorem run_eq {α : Type} {f : Settings → α} {rs : List Rule}
    (hsame : ∀ r ∈ rs, ∀ s, f (r.apply t sensor s).value = f s) (p : Pass) :
    f (rs.foldl (Pass.step t sensor) p).settings = f p.settings :=
  run_keeps (P := fun s' => f s' = f p.settings) (fun r hr s' h => (hsame r hr s').trans h) p rfl

/-- what every rule leaves alone a pass leaves alone -/
theorem repair_eq_of_forall {α : Type} {f : Settings → α}
    (hsame : ∀ (r : Rule) (s : Settings), f (r.apply t sensor s).value = f s) :
    f (repair t sensor s).settings = f s :=
  run_eq (fun r _ => hsame r) ⟨s, .empty⟩

namespace Rule

/-- the rules in front of a rule, in their order -/
def earlier (r : Rule) : List Rule := list.take (list.idxOf r)

/-- the rules behind a rule, in their order -/
def later (r : Rule) : List Rule := list.drop (list.idxOf r + 1)

theorem list_eq (r : Rule) : list = r.earlier ++ r :: r.later := by cases r <;> rfl

theorem mem_earlier {q r : Rule} : q ∈ r.earlier ↔ q.Before r := by cases q <;> cases r <;> decide

theorem mem_later {q r : Rule} : q ∈ r.later ↔ r.Before q := by cases q <;> cases r <;> decide

end Rule

/-- the settings that a rule finds in a pass -/
def found (t : Target) (sensor : SensorModel) (s : Settings) (r : Rule) : Settings :=
  (r.earlier.foldl (Pass.step t sensor) ⟨s, .empty⟩).settings

/-- a rule finds what each rule in front of it keeps -/
theorem found_keeps {P : Settings → Prop} {r : Rule}
    (hkeep : ∀ q : Rule, q.Before r → ∀ s, P s → P (q.apply t sensor s).value) (h : P s) :
    P (found t sensor s r) :=
  run_keeps (fun q hq => hkeep q (Rule.mem_earlier.1 hq)) ⟨s, .empty⟩ h

/-- a rule finds unchanged what each rule in front of it leaves alone -/
theorem found_eq {α : Type} {f : Settings → α} {r : Rule}
    (hsame : ∀ q : Rule, q.Before r → ∀ s, f (q.apply t sensor s).value = f s) : f (found t sensor s r) = f s :=
  run_eq (fun q hq => hsame q (Rule.mem_earlier.1 hq)) ⟨s, .empty⟩

/-- a rule finds the facts of the rules in front of it -/
theorem found_holds {q r : Rule} (hqr : q.Before r) (hq : q.Suits t) : q.Holds t sensor (found t sensor s r) := by
  have horder : r.earlier.Pairwise Rule.Before := before_of_list.sublist (List.take_sublist _ _)
  exact holds_of_mem horder (Rule.mem_earlier.2 hqr) hq ⟨s, .empty⟩

/-- what a rule makes of the settings it finds lasts if each rule behind it keeps it -/
theorem repair_keeps {P : Settings → Prop} (r : Rule)
    (hkeep : ∀ q : Rule, r.Before q → ∀ s, P s → P (q.apply t sensor s).value)
    (h : P (r.apply t sensor (found t sensor s r)).value) : P (repair t sensor s).settings := by
  rw [repair, Rule.list_eq r, List.foldl_append, List.foldl_cons]
  exact run_keeps (fun q hq => hkeep q (Rule.mem_later.1 hq)) _ h

/-- what each rule behind a rule leaves alone is, after a pass, what this rule makes of what it finds -/
theorem repair_eq {α : Type} {f : Settings → α} (r : Rule)
    (hsame : ∀ q : Rule, r.Before q → ∀ s, f (q.apply t sensor s).value = f s) :
    f (repair t sensor s).settings = f (r.apply t sensor (found t sensor s r)).value :=
  repair_keeps (P := fun s' => f s' = _) r (fun q hq s' h => (hsame q hq s').trans h) rfl

/-! ## The system group -/

/-- only the rule for the indices writes the system group -/
theorem Rule.system_apply {r : Rule} (hr : r ≠ profileIndices) (s : Settings) :
    (r.apply t sensor s).value.system = s.system := by
  cases r with
  | profileIndices => exact absurd rfl hr
  | ranges => rw [apply, fixRanges_value]
  | motorProtocol => rw [apply, fixProtocol_value]
  | loopTiming => rw [apply, fixLoop_value]
  | peripherals => rw [apply, fixPeripherals_frame]
  | _ => rfl

/-- a pass changes the system group in the indices alone -/
theorem system_repair (t : Target) (sensor : SensorModel) (s : Settings) :
    (repair t sensor s).settings.system = (fixIndices s.system).value := by
  have hfound : (found t sensor s .profileIndices).system = s.system :=
    found_eq (f := Settings.system) fun q hq s' => Rule.system_apply (fun he => absurd (he ▸ hq) (by decide)) s'
  -- no rule comes after the one for the indices
  have hlast : ∀ q : Rule, ¬ Rule.profileIndices.Before q := fun q => by cases q <;> decide
  rw [repair_eq (f := Settings.system) .profileIndices fun q hq => absurd hq (hlast q), Rule.apply, ← hfound]
  rfl

theorem indexed_repair (t : Target) (sensor : SensorModel) (s : Settings) :
    (repair t sensor s).settings.system.Indexed := by
  rw [system_repair]
  exact indexed_fixIndices s.system

/-- indices with slots stay as they are -/
theorem system_repair_of_indexed (t : Target) (sensor : SensorModel) {s : Settings} (h : s.system.Indexed) :
    (repair t sensor s).settings.system = s.system := by
  rw [system_repair, fixIndices_eq_pure h]
  rfl

end FlightStore.Repair
