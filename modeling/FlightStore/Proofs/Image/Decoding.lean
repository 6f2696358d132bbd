/-
What the records of an image are read as: for each group the last usable one, or else a reset.

A record is usable for a group if it has the number and the version of the group and can be read (`Record.usable?`), so
for one group at most. Reading it changes that part of the settings and no other (`step_cases`). By induction, each part
ends up as the last usable record for it says (`part_run`), and the rest is reset (`part_restore`). Nothing else
matters: neither the settings from before, nor records that are usable for no group, nor the order in which records of
different groups stand (`SameUsable`).

Settings are read into memory where others stand. `read` changes them there record by record, and leaves behind what
`decode` answers (`outcome_read`); a fault is found before anything is touched.
-/
import FlightStore.Image.Settings
import FlightStore.Proofs.Image.Records
import FlightStore.Proofs.Settings.Parts

namespace FlightStore.Image

open FlightStore.Wire

variable {t : Target} {rs rs' : List Record}

/-! ## Usable records -/

namespace Record

variable {r : Record} {g h : GroupId}

/-- the value that a record carries for a group, if it has its number and its version and can be read -/
def usable? (g : GroupId) (r : Record) : Option g.part.Value :=
  if r.id = g.number ∧ r.version = g.group.version then (g.part.codec.get r.payload).toOption.map Prod.fst else none

theorem usable?_eq_some_iff {v : g.part.Value} :
    r.usable? g = some v ↔
      r.id = g.number ∧ r.version = g.group.version ∧ ∃ rest, g.part.codec.get r.payload = .ok (v, rest) := by
  unfold usable?
  split_ifs with hr
  · rcases g.part.codec.get r.payload with e | ⟨w, rest⟩
    · simp [Except.toOption]
    · simp [Except.toOption, hr]
  · constructor
    · intro h
      cases h
    · rintro ⟨hid, hversion, -⟩
      exact absurd ⟨hid, hversion⟩ hr

/-- a record is usable for one group at most -/
theorem usable?_of_ne {v : h.part.Value} (hr : r.usable? h = some v) (hne : g ≠ h) : r.usable? g = none := by
  refine if_neg fun hg => ?_
  have hnumber : g.number = h.number := hg.1.symm.trans (usable?_eq_some_iff.1 hr).1
  exact hne (GroupId.number_injective hnumber)

/-- whether a record cannot be used: it is of no group, of another version, or cannot be read -/
def Useless (r : Record) : Prop :=
  GroupId.ofNumber? r.id = none ∨
    ∃ g : GroupId, r.id = g.number ∧
      (r.version ≠ g.group.version ∨ ∃ e, g.part.codec.get r.payload = .error e)

theorem Useless.usable?_eq_none (hr : r.Useless) (g : GroupId) : r.usable? g = none := by
  refine Option.eq_none_iff_forall_ne_some.2 fun v hv => ?_
  obtain ⟨hid, hversion, rest, hget⟩ := usable?_eq_some_iff.1 hv
  rcases hr with hunknown | ⟨h, hid', hr⟩
  · rw [GroupId.ofNumber?_eq_some_iff.2 hid] at hunknown
    cases hunknown
  · obtain rfl := GroupId.number_injective (hid.symm.trans hid')
    rcases hr with hold | ⟨e, he⟩
    · exact hold hversion
    · rw [he] at hget
      cases hget

/-- a step either meets a useless record and leaves everything alone, or takes over the value for the one group that the
record is usable for -/
theorem step_cases (p : Restored) (r : Record) :
    (r.Useless ∧ p.step r = p) ∨
      ∃ (g : GroupId) (v : g.part.Value), r.usable? g = some v ∧
        p.step r = ⟨g.part.set v p.settings, g :: p.loaded⟩ := by
  unfold Restored.step
  rcases hid : GroupId.ofNumber? r.id with _ | g
  · exact Or.inl ⟨Or.inl hid, rfl⟩
  · have hnumber : r.id = g.number := GroupId.ofNumber?_eq_some_iff.1 hid
    dsimp only
    split_ifs with hversion
    · exact Or.inl ⟨Or.inr ⟨g, hnumber, Or.inl hversion⟩, rfl⟩
    · rw [GroupId.decode_eq, Codec.read]
      rcases hget : g.part.codec.get r.payload with e | ⟨v, rest⟩
      · exact Or.inl ⟨Or.inr ⟨g, hnumber, Or.inr ⟨e, hget⟩⟩, rfl⟩
      · exact Or.inr ⟨g, v, usable?_eq_some_iff.2 ⟨hnumber, not_not.1 hversion, rest, hget⟩, rfl⟩

end Record

/-- what the last usable record for a group carries -/
def lastUsable? (g : GroupId) (rs : List Record) : Option g.part.Value := (rs.filterMap (Record.usable? g)).getLast?

theorem lastUsable?_cons (g : GroupId) (r : Record) (rs : List Record) :
    lastUsable? g (r :: rs) = (lastUsable? g rs).or (r.usable? g) := by
  unfold lastUsable?
  rcases hr : r.usable? g with _ | v
  · rw [List.filterMap_cons_none hr, Option.or_none]
  · rw [List.filterMap_cons_some hr, List.getLast?_cons]
    cases (rs.filterMap (Record.usable? g)).getLast? <;> rfl

/-! ## Reading records -/

/-- a record replaces the part that it is usable for, and no other -/
theorem part_step (g : GroupId) (p : Restored) (r : Record) :
    g.part.get (p.step r).settings = (r.usable? g).getD (g.part.get p.settings) := by
  rcases Record.step_cases p r with ⟨huseless, hstep⟩ | ⟨h, v, hr, hstep⟩
  · rw [hstep, huseless.usable?_eq_none g]
    rfl
  · rw [hstep]
    by_cases hne : g = h
    · subst hne
      rw [hr]
      exact g.get_set_self v p.settings
    · rw [Record.usable?_of_ne hr hne]
      exact GroupId.get_set_ne hne v p.settings

/-- a group counts as read if a record was usable for it -/
theorem mem_loaded_step (g : GroupId) (p : Restored) (r : Record) :
    g ∈ (p.step r).loaded ↔ (r.usable? g).isSome ∨ g ∈ p.loaded := by
  rcases Record.step_cases p r with ⟨huseless, hstep⟩ | ⟨h, v, hr, hstep⟩
  · simp [hstep, huseless.usable?_eq_none g]
  · by_cases hne : g = h
    · subst hne
      simp [hstep, hr]
    · simp [hstep, hne, Record.usable?_of_ne hr hne]

/-- a run over records leaves in each part what the last usable record for it carries -/
theorem part_run (g : GroupId) (rs : List Record) :
    ∀ p : Restored,
      g.part.get (rs.foldl Restored.step p).settings = (lastUsable? g rs).getD (g.part.get p.settings) := by
  induction rs with
  | nil => intro p; rfl
  | cons r rs ih =>
    intro p
    rw [List.foldl_cons, ih, part_step, lastUsable?_cons]
    cases lastUsable? g rs <;> rfl

theorem mem_loaded_run (g : GroupId) (rs : List Record) :
    ∀ p : Restored, g ∈ (rs.foldl Restored.step p).loaded ↔ (lastUsable? g rs).isSome ∨ g ∈ p.loaded := by
  induction rs with
  | nil => intro p; simp [lastUsable?]
  | cons r rs ih =>
    intro p
    rw [List.foldl_cons, ih, mem_loaded_step, lastUsable?_cons, Option.isSome_or]
    cases (lastUsable? g rs).isSome <;> simp

/-- **The last usable record wins.** Restored settings have in each part what the last usable record for it carries, or
the value of a reset if there is none. -/
theorem part_restore (g : GroupId) (t : Target) (rs : List Record) (prior : Settings) :
    g.part.get (restore t rs prior) = (lastUsable? g rs).getD (g.part.initial t) := by
  set p := rs.foldl Restored.step ⟨prior, []⟩ with hp
  have hloaded : g ∈ p.loaded ↔ (lastUsable? g rs).isSome := by
    rw [hp, mem_loaded_run]
    simp
  have hfold : restore t rs prior =
      GroupId.list.foldl (fun s h => if h ∈ p.loaded then s else h.group.reset t s) p.settings := by
    rw [restore, groups, List.foldl_map]
    simp only [Restored.resetMissing, GroupId.group_id, hp]
  rw [hfold, GroupId.part_foldl_reset t (· ∈ p.loaded) g GroupId.list p.settings]
  simp only [g.mem_list, true_and, hloaded]
  rcases hlast : lastUsable? g rs with _ | v
  · simp
  · have hpart := part_run g rs ⟨prior, []⟩
    rw [hlast] at hpart
    simpa using hpart

/-! ## What does not matter -/

/-- for each group, the usable records carry the same values in the same order -/
def SameUsable (rs rs' : List Record) : Prop :=
  ∀ g : GroupId, rs.filterMap (Record.usable? g) = rs'.filterMap (Record.usable? g)

/-- useless records do not matter, wherever they stand -/
theorem SameUsable.insert {r : Record} (hr : r.Useless) (front back : List Record) :
    SameUsable (front ++ r :: back) (front ++ back) := by
  intro g
  have hnone := hr.usable?_eq_none g
  rw [List.filterMap_append, List.filterMap_cons_none hnone, List.filterMap_append]

/-- the order of records of different groups does not matter -/
theorem SameUsable.swap {q r : Record} (hne : q.id ≠ r.id) (front back : List Record) :
    SameUsable (front ++ q :: r :: back) (front ++ r :: q :: back) := by
  intro g
  simp only [List.filterMap_append, List.filterMap_cons]
  rcases hq : q.usable? g with _ | v
  · rfl
  · rcases hr : r.usable? g with _ | w
    · rfl
    · exact absurd ((Record.usable?_eq_some_iff.1 hq).1.trans (Record.usable?_eq_some_iff.1 hr).1.symm) hne

theorem restore_congr (h : SameUsable rs rs') (t : Target) (prior prior' : Settings) :
    restore t rs prior = restore t rs' prior' := by
  refine GroupId.ext_parts fun g => ?_
  rw [part_restore, part_restore, lastUsable?, lastUsable?, h g]

/-! ## In place -/

/-- settings in memory under change, until a fault ends it -/
abbrev InPlace := ExceptT ImageError (StateM Settings)

namespace InPlace

variable {α β : Type}

/-- the answer, and what is left in memory -/
def outcome (x : InPlace α) (s : Settings) : Except ImageError α × Settings := (x.run.run s).run

/-- a step goes on in the memory that the one before left; a fault leaves what was there when it was found -/
theorem outcome_bind (x : InPlace α) (f : α → InPlace β) (s : Settings) :
    (x >>= f).outcome s =
      match x.outcome s with
      | (.ok a, s') => (f a).outcome s'
      | (.error e, s') => (.error e, s') := by
  show (x >>= f) s = match x s with
    | (.ok a, s') => f a s'
    | (.error e, s') => (.error e, s')
  simp only [bind, ExceptT.bind, ExceptT.mk, StateT.bind]
  rcases x s with ⟨_ | _, s'⟩ <;> rfl

end InPlace

/-- takes a record over into memory; answers the groups read so far -/
def takeOver (loaded : List GroupId) (r : Record) : InPlace (List GroupId) :=
  match GroupId.ofNumber? r.id with
  | none => pure loaded
  | some g =>
    if r.version ≠ g.group.version then pure loaded
    else
      match g.part.codec.get r.payload with
      | .ok (v, _) => do
        modify (g.part.set v)
        return g :: loaded
      | .error _ => pure loaded

/-- resets a group in memory, unless it was read -/
def resetUnread (t : Target) (loaded : List GroupId) (g : Group) : InPlace Unit :=
  if g.id ∈ loaded then pure () else modify (g.reset t)

/-- reads the settings of an image into memory, record by record -/
def read (i : Image) (t : Target) : InPlace Unit := do
  MonadExcept.ofExcept i.check
  let loaded ← (i.records?.getD []).foldlM takeOver []
  groups.forM (resetUnread t loaded)

theorem outcome_takeOver (p : Restored) (r : Record) :
    (takeOver p.loaded r).outcome p.settings = (.ok (p.step r).loaded, (p.step r).settings) := by
  unfold takeOver Restored.step
  rcases GroupId.ofNumber? r.id with _ | g
  · rfl
  · dsimp only
    split_ifs
    · rfl
    · rw [GroupId.decode_eq, Codec.read]
      rcases g.part.codec.get r.payload with e | ⟨v, rest⟩ <;> rfl

theorem outcome_takeOver_run (rs : List Record) :
    ∀ p : Restored, (rs.foldlM takeOver p.loaded).outcome p.settings =
      (.ok (rs.foldl Restored.step p).loaded, (rs.foldl Restored.step p).settings) := by
  induction rs with
  | nil => intro p; rfl
  | cons r rs ih =>
    intro p
    rw [List.foldlM_cons, InPlace.outcome_bind, outcome_takeOver]
    exact ih (p.step r)

theorem outcome_resetUnread_run (t : Target) (loaded : List GroupId) (gs : List Group) :
    ∀ s : Settings,
      (gs.forM (resetUnread t loaded)).outcome s = (.ok (), gs.foldl (Restored.resetMissing t loaded) s) := by
  induction gs with
  | nil => intro s; rfl
  | cons g gs ih =>
    intro s
    have hstep : (resetUnread t loaded g).outcome s = (.ok (), Restored.resetMissing t loaded s g) := by
      unfold resetUnread Restored.resetMissing
      split_ifs <;> rfl
    rw [List.forM, InPlace.outcome_bind, hstep]
    exact ih _

/-- **Reading in place.** Records taken over into memory one by one leave there what `decode` answers; a fault is found
before anything is touched. -/
theorem outcome_read (i : Image) (t : Target) (prior : Settings) :
    (i.read t).outcome prior =
      match i.decode t prior with
      | .error e => (.error e, prior)
      | .ok s => (.ok (), s) := by
  have hcheck : InPlace.outcome (MonadExcept.ofExcept i.check) prior = (i.check, prior) := by
    cases i.check <;> rfl
  have hrecords := outcome_takeOver_run (i.records?.getD []) ⟨prior, []⟩
  rw [read, InPlace.outcome_bind, hcheck, decode]
  rcases i.check with e | u
  · rfl
  · dsimp only
    rw [InPlace.outcome_bind, hrecords]
    exact outcome_resetUnread_run t _ groups _

/-! ## Decoding -/

/-- **An image is read as the last usable record for each group, or else as a reset.** The same settings come out for
whatever was in memory, and for every image with the same usable records. An image with a fault leaves memory as it
was. -/
theorem decode_last_usable (i : Image) (t : Target) :
    (∀ e, i.check = .error e → ∀ prior, i.decode t prior = .error e ∧ (i.read t).outcome prior = (.error e, prior)) ∧
      (i.check = .ok () → ∃ rs s, i.records? = some rs ∧
        (∀ prior, i.decode t prior = .ok s ∧ (i.read t).outcome prior = (.ok (), s)) ∧
        (∀ g : GroupId, g.part.get s = (lastUsable? g rs).getD (g.part.initial t)) ∧
        ∀ (j : Image) (rs' : List Record), j.check = .ok () → j.records? = some rs' → SameUsable rs rs' →
          ∀ prior, j.decode t prior = .ok s ∧ (j.read t).outcome prior = (.ok (), s)) := by
  constructor
  · intro e hcheck prior
    have hdecode : i.decode t prior = .error e := by rw [decode, hcheck]
    refine ⟨hdecode, ?_⟩
    rw [outcome_read, hdecode]
  · intro hcheck
    obtain ⟨rs, hrecords⟩ := records_of_check hcheck
    -- nothing of what is in memory is left, so any settings will do to name the result
    have hsame : ∀ (j : Image) (rs' : List Record), j.check = .ok () → j.records? = some rs' → SameUsable rs rs' →
        ∀ prior, j.decode t prior = .ok (restore t rs {}) ∧
          (j.read t).outcome prior = (.ok (), restore t rs {}) := by
      intro j rs' hj hrecords' husable prior
      have hdecode : j.decode t prior = .ok (restore t rs {}) := by
        rw [decode, hj, hrecords', restore_congr husable t {} prior]
        rfl
      refine ⟨hdecode, ?_⟩
      rw [outcome_read, hdecode]
    exact ⟨rs, restore t rs {}, hrecords, hsame i rs hcheck hrecords fun _ => rfl,
      fun g => part_restore g t rs {}, hsame⟩

end FlightStore.Image
