/-
Storage is accessed while signal sampling rests, and only then.

`Guarded` says it of a trace. Suspensions and resumptions take turns, starting with a suspension and ending with a
resumption; around each access, the last switch before suspends and the next one after resumes; and what the motors, the
arming and the beeper are told, they are told while sampling runs. `run_guarded` proves it of any operations in any order
on any medium, whose accesses are all in the trace. As a run may stop after any operation, sampling runs after each of
them.

The proof watches a trace from its start (`Sampling.after`). A call is refused where it must not be made, so a trace
that is watched to its end with sampling on is guarded (`Watched.guarded`), and watched traces may follow each other.
-/
import FlightStore.Proofs.Device.Accesses

namespace FlightStore

/-! ## Guarded traces -/

/-- whether a call suspends or resumes sampling -/
def Call.switches : Call → Bool
  | .suspendSampling | .resumeSampling => true
  | _ => false

/-- whether a call must find sampling running -/
def Call.needsSampling : Call → Bool
  | .setEscEndpoints _ | .disableArming | .acknowledge _ => true
  | _ => false

/-- sampling rests after these calls: the last switch suspended it -/
def Resting (calls : List Call) : Prop := (calls.filter Call.switches).getLast? = some .suspendSampling

/-- a trace in which the storage is accessed only while sampling rests -/
structure Guarded (calls : List Call) : Prop where
  alternate : ∃ n, calls.filter Call.switches = (List.replicate n [.suspendSampling, .resumeSampling]).flatten
  resumed : ¬ Resting calls
  /-- an access lies between a suspension and its resumption -/
  accessed : ∀ front access back, calls = front ++ .storage access :: back →
    Resting front ∧ (back.filter Call.switches).head? = some .resumeSampling
  /-- what needs sampling is not called while it rests -/
  awake : ∀ front c back, calls = front ++ c :: back → c.needsSampling = true → ¬ Resting front

/-! ## Watching a trace -/

inductive Sampling where
  | running
  | resting
deriving DecidableEq

namespace Sampling

/-- what a call makes of sampling; nothing if the call must not be made then -/
def after (s : Sampling) : Call → Option Sampling
  | .suspendSampling => if s = running then some resting else none
  | .resumeSampling => if s = resting then some running else none
  | .storage _ => if s = resting then some resting else none
  | .setEscEndpoints _ | .disableArming | .acknowledge _ => if s = running then some running else none
  | _ => some s

/-- sampling after all calls, if none of them is refused -/
def watch (s : Sampling) (calls : List Call) : Option Sampling := calls.foldlM after s

variable {s s' : Sampling} {c : Call} {calls : List Call}

/-- a call switches sampling, or it leaves it as it is -/
theorem after_cases (h : s.after c = some s') :
    (c = .suspendSampling ∧ s = running ∧ s' = resting) ∨ (c = .resumeSampling ∧ s = resting ∧ s' = running) ∨
      (c.switches = false ∧ s' = s) := by
  cases c <;> cases s <;> cases h <;> simp [Call.switches]

theorem after_storage {access : Storage.Access} (h : s.after (.storage access) = some s') :
    s = resting ∧ s' = resting := by
  cases s <;> cases h
  exact ⟨rfl, rfl⟩

theorem after_needsSampling (h : s.after c = some s') (hc : c.needsSampling = true) : s = running := by
  cases c <;> cases hc <;> cases s <;> cases h <;> rfl

theorem watch_cons (s : Sampling) (c : Call) (calls : List Call) :
    s.watch (c :: calls) = (s.after c).bind fun s' => s'.watch calls := List.foldlM_cons

theorem watch_singleton (s : Sampling) (c : Call) : s.watch [c] = s.after c := by
  rw [watch_cons]
  exact Option.bind_fun_some (s.after c)

theorem watch_append (s : Sampling) (calls calls' : List Call) :
    s.watch (calls ++ calls') = (s.watch calls).bind fun s' => s'.watch calls' := List.foldlM_append

/-- calls that leave sampling as it is, one by one, do so together -/
theorem watch_of_forall (h : ∀ c ∈ calls, s.after c = some s) : s.watch calls = some s := by
  induction calls with
  | nil => rfl
  | cons c calls ih =>
    have hrest := ih fun c' hc' => h c' (List.mem_cons_of_mem c hc')
    rw [watch_cons, h c List.mem_cons_self]
    exact hrest

/-- the resumption that is still to come -/
def pending : Sampling → List Call
  | running => []
  | resting => [.resumeSampling]

/-- where sampling runs at the end, its switches came in pairs, after the resumption that was still to come -/
theorem filter_of_watch (h : s.watch calls = some running) :
    ∃ n, calls.filter Call.switches =
      s.pending ++ (List.replicate n [.suspendSampling, .resumeSampling]).flatten := by
  induction calls generalizing s with
  | nil =>
    obtain rfl : s = running := Option.some.inj h
    exact ⟨0, rfl⟩
  | cons c calls ih =>
    rw [watch_cons] at h
    obtain ⟨s', hc, hcalls⟩ := Option.bind_eq_some_iff.1 h
    obtain ⟨n, hn⟩ := ih hcalls
    rcases after_cases hc with ⟨rfl, rfl, rfl⟩ | ⟨rfl, rfl, rfl⟩ | ⟨hswitch, rfl⟩
    · -- the suspension completes the pair of the resumption that is still to come
      refine ⟨n + 1, ?_⟩
      rw [List.filter_cons_of_pos rfl, hn, List.replicate_succ, List.flatten_cons]
      rfl
    · refine ⟨n, ?_⟩
      rw [List.filter_cons_of_pos rfl, hn]
      rfl
    · refine ⟨n, ?_⟩
      rw [List.filter_cons_of_neg (by simp [hswitch]), hn]

/-- the watch knows the last switch -/
theorem resting_iff_of_watch (h : running.watch calls = some s) : Resting calls ↔ s = resting := by
  -- from the end of the trace, because the last switch decides
  induction calls using List.reverseRecOn generalizing s with
  | nil =>
    obtain rfl : running = s := Option.some.inj h
    simp [Resting]
  | append_singleton calls c ih =>
    rw [watch_append] at h
    obtain ⟨s', hcalls, hc⟩ := Option.bind_eq_some_iff.1 h
    rw [watch_singleton] at hc
    unfold Resting
    rw [List.filter_append]
    rcases after_cases hc with ⟨rfl, rfl, rfl⟩ | ⟨rfl, rfl, rfl⟩ | ⟨hswitch, rfl⟩
    · simp [Call.switches]
    · simp [Call.switches]
    · rw [List.filter_cons_of_neg (by simp [hswitch]), List.filter_nil, List.append_nil]
      exact ih hcalls

end Sampling

/-- sampling runs before and after these calls, and none of them is refused -/
def Watched (calls : List Call) : Prop := Sampling.running.watch calls = some .running

namespace Watched

variable {calls calls' : List Call}

theorem nil : Watched [] := rfl

theorem append (h : Watched calls) (h' : Watched calls') : Watched (calls ++ calls') := by
  unfold Watched at h ⊢
  rw [Sampling.watch_append, h]
  exact h'

/-- the watch at one call of a trace -/
theorem split {front back : List Call} {c : Call} (h : Watched (front ++ c :: back)) :
    ∃ s s', Sampling.running.watch front = some s ∧ s.after c = some s' ∧ s'.watch back = some .running := by
  unfold Watched at h
  rw [Sampling.watch_append] at h
  obtain ⟨s, hfront, h⟩ := Option.bind_eq_some_iff.1 h
  rw [Sampling.watch_cons] at h
  obtain ⟨s', hc, hback⟩ := Option.bind_eq_some_iff.1 h
  exact ⟨s, s', hfront, hc, hback⟩

theorem guarded (h : Watched calls) : Guarded calls where
  alternate := Sampling.filter_of_watch h
  resumed := by
    rw [Sampling.resting_iff_of_watch h]
    exact Sampling.noConfusion
  accessed := by
    rintro front access back rfl
    obtain ⟨s, s', hfront, hc, hback⟩ := h.split
    obtain ⟨rfl, rfl⟩ := Sampling.after_storage hc
    obtain ⟨n, hn⟩ := Sampling.filter_of_watch hback
    refine ⟨(Sampling.resting_iff_of_watch hfront).2 rfl, ?_⟩
    rw [hn]
    rfl
  awake := by
    rintro front c back rfl hneeds
    obtain ⟨s, s', hfront, hc, -⟩ := h.split
    obtain rfl : s = .running := Sampling.after_needsSampling hc hneeds
    rw [Sampling.resting_iff_of_watch hfront]
    exact Sampling.noConfusion

end Watched

/-- what may be called while sampling rests is guarded by a suspension around it -/
theorem watched_suspended {calls : List Call} (h : ∀ c ∈ calls, Sampling.resting.after c = some .resting) :
    Watched (suspended calls) := by
  unfold Watched suspended
  rw [Sampling.watch_cons]
  show Sampling.resting.watch (calls ++ [.resumeSampling]) = _
  rw [Sampling.watch_append, Sampling.watch_of_forall h]
  rfl

/-- settings may be handed over while sampling rests -/
theorem after_activation (t : Target) (settings : Settings) :
    ∀ c ∈ activation t settings, Sampling.resting.after c = some .resting := by
  unfold activation activationWith
  split_ifs <;> simp [Sampling.after]

/-! ## Runs -/

namespace Device

variable {σ ε : Type}

theorem Accesses.watched {calls : List Call} (h : Accesses calls) : Watched calls := by
  refine h.induct Watched.nil (fun accesses => watched_suspended fun c hc => ?_) fun a b => Watched.append
  obtain ⟨access, -, rfl⟩ := List.mem_map.1 hc
  rfl

theorem adds_selectPid (d : Device σ) (index : UInt8) : Adds Watched d (d.selectPid index) := by
  rw [selectPid_eq]
  split_ifs with hindex
  · have hnew : Watched [.startControlLaw d.settings.pidProfiles[index.toNat], .setEscEndpoints d.settings.motor,
      .acknowledge (index.toNat + 1)] := rfl
    exact ⟨_, rfl, hnew⟩
  · have hnew : Watched [.acknowledge (index.toNat + 1)] := rfl
    exact adds_trace hnew d

theorem adds_autoSelect (d : Device σ) (cells : UInt8) : Adds Watched d (d.autoSelect cells) := by
  rw [autoSelect_eq]
  cases d.autoSlot? cells with
  | none => exact Adds.none Watched.nil rfl
  | some slot => exact adds_selectPid d _

theorem adds_selectRate (d : Device σ) (index : UInt8) : Adds Watched d (d.selectRate index) := by
  rw [selectRate_eq]
  split_ifs with hindex
  · have hnew : Watched [.loadRateProfile index.toNat d.settings.rateProfiles[index.toNat], .startStickProcessing] := rfl
    exact ⟨_, rfl, hnew⟩
  · exact Adds.none Watched.nil rfl

variable [Storage σ ε]

theorem watched_bootCalls (d : Device σ) : Watched d.bootCalls := by
  refine watched_suspended fun c hc => ?_
  rcases List.mem_append.1 hc with haccess | hactivation
  · obtain ⟨access, -, rfl⟩ := List.mem_map.1 haccess
    rfl
  · exact after_activation _ _ c hactivation

/-- every operation starts and ends with sampling running -/
theorem adds_perform (d : Device σ) (op : Operation) : Adds Watched d (d.perform op) := by
  cases op with
  | load => exact ⟨d.bootCalls, calls_load d, watched_bootCalls d⟩
  | save =>
    -- the confirmation comes after sampling was resumed
    have hconfirmed : Watched [.acknowledge 1] := rfl
    exact adds_save d fun written hwritten => (hwritten.watched.append (watched_bootCalls _)).append hconfirmed
  | selectPid index => exact adds_selectPid d index
  | autoSelect cells => exact adds_autoSelect d cells
  | selectRate index => exact adds_selectRate d index
  | requireReboot =>
    have hnew : Watched [.disableArming] := rfl
    exact adds_trace hnew { d with rebootRequired := true }
  | _ => exact (adds_perform_of_quiet d rfl).mono fun _ => Accesses.watched

theorem adds_run (d : Device σ) (ops : List Operation) : Adds Watched d (d.run ops) := by
  induction ops generalizing d with
  | nil => exact Adds.none Watched.nil rfl
  | cons op ops ih =>
    rw [run_cons]
    exact (adds_perform d op).trans (ih (d.perform op)) fun _ _ => Watched.append

/-- **Storage is only accessed while sampling rests.** The calls of any operations in any order, on any target and any
medium, are guarded, and they tell each access that the medium has seen. -/
theorem run_guarded (ops : List Operation) :
    (∀ d : Device σ, ∃ calls, (d.run ops).calls = d.calls ++ calls ∧ Guarded calls) ∧
      ∀ d : Device (Logged σ), Accounts d (d.run ops) := by
  refine ⟨fun d => ?_, fun d => accounts_run d ops⟩
  obtain ⟨calls, hcalls, hwatched⟩ := adds_run d ops
  exact ⟨calls, hcalls, hwatched.guarded⟩

end Device
end FlightStore
