/-
The table of groups is coherent.

Each group stands for one part of the settings. Its reset and its decoding replace that part and change no other one
(`ChangesOnly`), which leaves nothing open about the settings they end in (`ChangesOnly.eq_set`). Its stored form
shows that part and nothing else. The parts of all groups are independent and make up the settings
(`GroupId.Partition`). A stored form ends by itself: bytes behind it do not matter, and without its last bytes it is
refused. Bytes that are refused leave settings in memory as they were.

Results:
- `partition`: any choice of one value for each group is the choice of just one store of settings;
- `coherent`: what a group's reset, encoding and decoding do, for any settings, bytes and buffer;
- `table_coherent`: both, for the whole table;
- `decode_every`: all groups encoded from one store and decoded into another one make the two the same.
-/
import FlightStore.Proofs.Wire.Delimited
import FlightStore.Proofs.Settings.Parts
import FlightStore.Proofs.Settings.Stored

namespace FlightStore

open Wire

/-! ## Every stored form ends by itself -/

instance : Pilot.schema.wire.Delimited := by unfold Pilot.schema; infer_instance

instance : SystemState.schema.wire.Delimited := by unfold SystemState.schema; infer_instance

instance : SerialPort.schema.wire.Delimited := by unfold SerialPort.schema; infer_instance

instance : SerialPorts.schema.wire.Delimited := by unfold SerialPorts.schema; infer_instance

instance : Receiver.schema.wire.Delimited := by unfold Receiver.schema; infer_instance

instance : MotorOutput.schema.wire.Delimited := by unfold MotorOutput.schema; infer_instance

instance : Motor.schema.wire.Delimited := by unfold Motor.schema; infer_instance

instance : Gyro.schema.wire.Delimited := by unfold Gyro.schema; infer_instance

instance : PidLoop.schema.wire.Delimited := by unfold PidLoop.schema; infer_instance

instance : Accelerometer.schema.wire.Delimited := by unfold Accelerometer.schema; infer_instance

instance : ThrottleCorrection.schema.wire.Delimited := by unfold ThrottleCorrection.schema; infer_instance

instance : Gps.schema.wire.Delimited := by unfold Gps.schema; infer_instance

instance : Failsafe.schema.wire.Delimited := by unfold Failsafe.schema; infer_instance

instance : ChannelRange.schema.wire.Delimited := by unfold ChannelRange.schema; infer_instance

instance : ModeCondition.schema.wire.Delimited := by unfold ModeCondition.schema; infer_instance

instance : ModeConditions.schema.wire.Delimited := by unfold ModeConditions.schema; infer_instance

instance : Beeper.schema.wire.Delimited := by unfold Beeper.schema; infer_instance

instance : Blackbox.schema.wire.Delimited := by unfold Blackbox.schema; infer_instance

instance : Vtx.schema.wire.Delimited := by unfold Vtx.schema; infer_instance

instance : VtxTable.schema.wire.Delimited := by unfold VtxTable.schema; infer_instance

instance {α : Type} {s : Schema α} [s.wire.Delimited] : (Axes.schema s).wire.Delimited := by
  unfold Axes.schema; infer_instance

instance : PidGains.schema.wire.Delimited := by unfold PidGains.schema; infer_instance

instance : PidProfile.schema.wire.Delimited := by unfold PidProfile.schema; infer_instance

instance : RateProfile.schema.wire.Delimited := by unfold RateProfile.schema; infer_instance

instance (g : GroupId) : g.part.codec.Delimited := by
  cases g <;> dsimp only [GroupId.part] <;> infer_instance

/-! ## Changing one part -/

/-- settings that differ from others in the part of one group at most -/
def ChangesOnly (g : GroupId) (s s' : Settings) : Prop := ∀ h : GroupId, h ≠ g → h.part.get s' = h.part.get s

theorem changesOnly_set (g : GroupId) (v : g.part.Value) (s : Settings) : ChangesOnly g s (g.part.set v s) :=
  fun _ hne => GroupId.get_set_ne hne v s

/-- the part and what was there before say everything about such settings -/
theorem ChangesOnly.eq_set {g : GroupId} {s s' : Settings} (h : ChangesOnly g s s') :
    s' = g.part.set (g.part.get s') s := by
  refine GroupId.ext_parts fun k => ?_
  by_cases hk : k = g
  · subst hk
    exact (k.get_set_self _ s).symm
  · calc k.part.get s' = k.part.get s := h k hk
      _ = k.part.get (g.part.set (g.part.get s') s) := (GroupId.get_set_ne hk _ s).symm

namespace GroupId

/-- the groups split the settings into parts of which each can have any value, whatever the others have -/
structure Partition : Prop where
  /-- no two groups stand for the same part -/
  apart : ∀ g h : GroupId, g ≠ h → ∀ v s, g.part.get (h.part.set v s) = g.part.get s
  /-- values for all groups are the parts of just one store of settings -/
  whole : ∀ values : (g : GroupId) → g.part.Value, ∃! s : Settings, ∀ g : GroupId, g.part.get s = values g

/-- settings put together from values, one group after the other -/
theorem get_foldl_set (values : (g : GroupId) → g.part.Value) (g : GroupId) (ids : List GroupId) :
    ∀ s : Settings, g.part.get (ids.foldl (fun s h => h.part.set (values h) s) s) =
      if g ∈ ids then values g else g.part.get s := by
  induction ids with
  | nil => simp
  | cons h ids ih =>
    intro s
    rw [List.foldl_cons, ih]
    by_cases hg : g = h
    · subst hg
      simp [get_set_self]
    · simp [get_set_ne hg, hg]

theorem partition : Partition where
  apart _ _ hne v s := get_set_ne hne v s
  whole values := by
    -- the groups fill the initial settings one after the other; every group has its turn
    refine ⟨list.foldl (fun s h => h.part.set (values h) s) {}, fun g => ?_, fun s hs => ext_parts fun g => ?_⟩
    · rw [get_foldl_set, if_pos g.mem_list]
    · rw [hs g, get_foldl_set, if_pos g.mem_list]

end GroupId

/-! ## Encoding and decoding -/

namespace GroupId

/-- decodes into settings in memory: the part is replaced once the bytes were read -/
def decodeInto (g : GroupId) (bytes : List UInt8) : ExceptT WireError (StateM Settings) Unit := do
  let v ← MonadExcept.ofExcept (g.part.codec.read bytes)
  modify (g.part.set v)

/-- the answer of decoding into memory, and what is left there -/
def afterDecode (g : GroupId) (bytes : List UInt8) (s : Settings) : Except WireError Unit × Settings :=
  ((g.decodeInto bytes).run.run s).run

variable {g : GroupId} {bytes : List UInt8}

/-- memory holds what decoding answers, or else what it held before -/
theorem afterDecode_eq (g : GroupId) (bytes : List UInt8) (s : Settings) : g.afterDecode bytes s =
    match g.group.decode bytes s with
    | .ok s' => (.ok (), s')
    | .error e => (.error e, s) := by
  rw [decode_eq]
  unfold afterDecode decodeInto
  rcases g.part.codec.read bytes with e | v <;> rfl

theorem decode_of_get {v : g.part.Value} {rest : List UInt8} (h : g.part.codec.get bytes = .ok (v, rest))
    (s : Settings) : g.group.decode bytes s = .ok (g.part.set v s) := by
  rw [decode_eq, Codec.read, h]
  rfl

theorem decode_of_get_error {e : WireError} (h : g.part.codec.get bytes = .error e) (s : Settings) :
    g.group.decode bytes s = .error e := by
  rw [decode_eq, Codec.read, h]
  rfl

/-- what was encoded is decoded to the part that it came from, whatever follows it -/
theorem decode_payload (g : GroupId) (source s : Settings) (rest : List UInt8) :
    g.group.decode (g.part.payload source ++ rest) s = .ok (g.part.set (g.part.get source) s) :=
  decode_of_get ((g.lawful (g.part.get source)).get_put rest) s

/-- a buffer takes the stored form if it has room for it -/
theorem encode_eq_payload (g : GroupId) (size : Nat) (s : Settings) : g.group.encode size s =
    if (g.part.payload s).length ≤ size then .ok (g.part.payload s) else .error .bufferFull := g.encode_eq size s

/-- what the operations of a group do: `part` is what they work on, all of it and nothing else -/
structure Coherent (g : GroupId) : Prop where
  /-- a reset gives the part its initial value and changes nothing else -/
  reset : ∀ t s, g.part.get (g.group.reset t s) = g.part.initial t ∧ ChangesOnly g s (g.group.reset t s)
  /-- the stored form shows the part and nothing else -/
  stored : ∀ s s', g.part.payload s = g.part.payload s' ↔ g.part.get s = g.part.get s'
  /-- bytes say what the part becomes, and nothing else changes; or they are refused, and nothing changes at all. What
  was there before has no say in it -/
  decoded : ∀ bytes,
    (∃ v, ∀ s, ∃ s', g.group.decode bytes s = .ok s' ∧ g.afterDecode bytes s = (.ok (), s') ∧
      g.part.get s' = v ∧ ChangesOnly g s s') ∨
    (∃ e, ∀ s, g.group.decode bytes s = .error e ∧ g.afterDecode bytes s = (.error e, s))
  /-- what was encoded makes the part agree with that of its source, whatever follows -/
  restored : ∀ source s rest, ∃ s', g.afterDecode (g.part.payload source ++ rest) s = (.ok (), s') ∧
    g.part.get s' = g.part.get source ∧ ChangesOnly g s s'
  /-- what was encoded and then cut short is refused, and nothing changes -/
  cut : ∀ source s bytes, bytes <+: g.part.payload source → bytes ≠ g.part.payload source →
    ∃ e, g.afterDecode bytes s = (.error e, s)
  /-- memory as long as the stored form takes it, in whatever chunks it is written, and keeps what stands behind it -/
  fits : ∀ source (memory : List UInt8), (g.part.payload source).length ≤ memory.length →
    g.group.encode memory.length source = .ok (g.part.payload source) ∧
    ∀ chunks, chunks.flatten = g.part.payload source → Buffer.putAll ⟨[], memory⟩ chunks =
      .ok ⟨g.part.payload source, memory.drop (g.part.payload source).length⟩
  /-- shorter memory does not -/
  full : ∀ source (memory : List UInt8), memory.length < (g.part.payload source).length →
    g.group.encode memory.length source = .error .bufferFull ∧
    ∀ chunks, chunks.flatten = g.part.payload source → Buffer.putAll ⟨[], memory⟩ chunks = .error .bufferFull

theorem payload_eq_iff (g : GroupId) (s s' : Settings) :
    g.part.payload s = g.part.payload s' ↔ g.part.get s = g.part.get s' := by
  constructor
  · intro h
    have hprefix : g.part.codec.put (g.part.get s) <+: g.part.codec.put (g.part.get s') :=
      ⟨[], (List.append_nil _).trans h⟩
    exact (Codec.put_prefix_iff g.lawful).1 hprefix
  · intro h
    exact congrArg g.part.codec.put h

theorem decoded_or_refused (g : GroupId) (bytes : List UInt8) :
    (∃ v, ∀ s, ∃ s', g.group.decode bytes s = .ok s' ∧ g.afterDecode bytes s = (.ok (), s') ∧
      g.part.get s' = v ∧ ChangesOnly g s s') ∨
    (∃ e, ∀ s, g.group.decode bytes s = .error e ∧ g.afterDecode bytes s = (.error e, s)) := by
  rcases hget : g.part.codec.get bytes with e | ⟨v, rest⟩
  · refine .inr ⟨e, fun s => ?_⟩
    have hdecode := decode_of_get_error hget s
    refine ⟨hdecode, ?_⟩
    rw [afterDecode_eq, hdecode]
  · refine .inl ⟨v, fun s => ?_⟩
    have hdecode := decode_of_get hget s
    refine ⟨g.part.set v s, hdecode, ?_, g.get_set_self v s, changesOnly_set g v s⟩
    rw [afterDecode_eq, hdecode]

theorem coherent (g : GroupId) : g.Coherent where
  reset t s := ⟨g.part_reset_self t s, fun _ hne => part_reset_ne hne t s⟩
  stored := g.payload_eq_iff
  decoded := g.decoded_or_refused
  restored source s rest := by
    refine ⟨g.part.set (g.part.get source) s, ?_, g.get_set_self _ s, changesOnly_set g _ s⟩
    rw [afterDecode_eq, decode_payload]
  cut source s bytes hprefix hshort := by
    obtain ⟨e, herror⟩ := Codec.get_cut_error (g.lawful (g.part.get source)) hprefix hshort
    refine ⟨e, ?_⟩
    rw [afterDecode_eq, decode_of_get_error herror]
  fits source memory hroom := by
    refine ⟨by rw [encode_eq_payload, if_pos hroom], fun chunks hchunks => ?_⟩
    rw [Buffer.putAll_eq, hchunks, if_pos hroom, List.nil_append]
  full source memory hroom := by
    refine ⟨by rw [encode_eq_payload, if_neg (Nat.not_le.2 hroom)], fun chunks hchunks => ?_⟩
    rw [Buffer.putAll_eq, hchunks, if_neg (Nat.not_le.2 hroom)]

/-- **The table of groups is coherent.** The groups split the settings into independent parts. Each group's reset,
encoding and decoding work on its own part; what it encodes is restored whatever follows, refused when cut short, and
written into any buffer that has the room. -/
theorem table_coherent : Partition ∧ ∀ g : GroupId, g.Coherent := ⟨partition, coherent⟩

/-- **Everything is carried over.** All groups encoded from one store and decoded into another one, with any bytes
behind each stored form, make the two the same. -/
theorem decode_every (source s : Settings) (rest : GroupId → List UInt8) :
    list.foldlM (fun s g => g.group.decode (g.part.payload source ++ rest g) s) s = .ok source := by
  have hstep : (fun (s : Settings) (g : GroupId) => g.group.decode (g.part.payload source ++ rest g) s) =
      fun s g => pure (g.part.set (g.part.get source) s) := by
    funext s g
    exact g.decode_payload source s (rest g)
  rw [hstep, List.foldlM_pure, set_all]
  rfl

end GroupId
end FlightStore
