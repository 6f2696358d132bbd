/-
Stored forms that end by themselves.

A reader takes its bytes from the front if what it took decides what was read, whatever follows (`TakesFront`). Reading
on with what is left keeps this (`TakesFront.andThen`), and each codec is such a chain: over the bytes of a number, the
characters of a text, the items of a list, the fields of a record. A codec that takes from the front and reads back what
it wrote refuses every stored form that is cut short (`get_cut_error`), and no stored form begins with another one
(`put_prefix_iff`).

The other direction writes into a buffer. `Buffer.put` takes one chunk of bytes, or refuses it if there is no room left.
However bytes are divided into chunks, they are written exactly if there is room for all of them (`putAll_eq`), as
`Codec.putInto` answers at once.
-/
import FlightStore.Proofs.Wire.Codec
import FlightStore.Schema

namespace FlightStore

open Wire

namespace Wire

variable {α β γ : Type}

/-! ## Readers -/

/-- what a reader takes is at the front and decides what was read, whatever follows -/
def TakesFront (read : List UInt8 → Reading α) : Prop :=
  ∀ bs a rest, read bs = .ok (a, rest) → ∃ taken, bs = taken ++ rest ∧ ∀ more, read (taken ++ more) = .ok (a, more)

/-- reads on where the reader before stopped -/
def andThen (read : List UInt8 → Reading α) (next : α → List UInt8 → Reading β) (bs : List UInt8) : Reading β :=
  match read bs with
  | .ok (a, rest) => next a rest
  | .error e => .error e

theorem TakesFront.congr {read read' : List UInt8 → Reading α} (h : TakesFront read) (heq : ∀ bs, read' bs = read bs) :
    TakesFront read' := by
  obtain rfl : read' = read := funext heq
  exact h

theorem takesFront_ok (a : α) : TakesFront fun bs => .ok (a, bs) := by
  intro bs b rest h
  obtain ⟨rfl, rfl⟩ := Prod.mk.inj (Except.ok.inj h)
  exact ⟨[], rfl, fun more => rfl⟩

theorem takesFront_error (e : WireError) : TakesFront (α := α) fun _ => .error e := by
  intro bs a rest h
  cases h

theorem takesFront_ofExcept (x : Except WireError α) : TakesFront fun bs => x.map fun a => (a, bs) := by
  rcases x with e | a
  · exact takesFront_error e
  · exact takesFront_ok a

/-- a reader that reads on takes what both take -/
theorem TakesFront.andThen {read : List UInt8 → Reading α} {next : α → List UInt8 → Reading β} (hread : TakesFront read)
    (hnext : ∀ a, TakesFront (next a)) : TakesFront (andThen read next) := by
  intro bs b rest h
  rcases hfirst : read bs with e | ⟨a, left⟩
  · rw [Wire.andThen, hfirst] at h
    cases h
  · rw [Wire.andThen, hfirst] at h
    obtain ⟨front, hbs, hfront⟩ := hread bs a left hfirst
    obtain ⟨back, hleft, hback⟩ := hnext a left b rest h
    refine ⟨front ++ back, by rw [hbs, hleft, List.append_assoc], fun more => ?_⟩
    rw [Wire.andThen, List.append_assoc, hfront]
    exact hback more

theorem TakesFront.map {read : List UInt8 → Reading α} (h : TakesFront read) (f : α → β) :
    TakesFront fun bs => (read bs).map fun (a, rest) => (f a, rest) := by
  have hvalue : ∀ a, TakesFront fun bs => .ok (f a, bs) := fun a => takesFront_ok (f a)
  have hchain := h.andThen hvalue
  refine hchain.congr fun bs => ?_
  unfold Wire.andThen
  rcases read bs with e | ⟨a, rest⟩ <;> rfl

theorem takesFront_byte : TakesFront Codec.u8.get := by
  intro bs a rest h
  cases bs with
  | nil => cases h
  | cons b bs =>
    obtain ⟨rfl, rfl⟩ := Prod.mk.inj (Except.ok.inj h)
    exact ⟨[b], rfl, fun more => rfl⟩

/-- by induction on the width: a byte is the last one, or seven bits are read and a narrower number follows -/
theorem takesFront_getVarint (w : Nat) : TakesFront (getVarint w) := by
  induction w using Nat.strongRecOn with
  | ind w ih =>
    cases w with
    | zero => exact (takesFront_error .badVarint).congr fun bs => by rw [getVarint]
    | succ w =>
      have hnarrow : TakesFront (getVarint (w + 1 - 7)) := ih _ (by omega)
      have hchain : TakesFront (andThen Codec.u8.get fun b bs =>
          if b.toNat < 128 then
            if b.toNat >>> (w + 1) = 0 then .ok (b.toNat, bs) else .error .badVarint
          else andThen (getVarint (w + 1 - 7)) (fun n rest => .ok (b.toNat - 128 + 128 * n, rest)) bs) := by
        refine takesFront_byte.andThen fun b => ?_
        split_ifs
        · exact takesFront_ok b.toNat
        · exact takesFront_error .badVarint
        · exact hnarrow.andThen fun n => takesFront_ok (b.toNat - 128 + 128 * n)
      refine hchain.congr fun bs => ?_
      cases bs with
      | nil => rfl
      | cons b bs =>
        rw [getVarint]
        unfold andThen
        dsimp only [Codec.u8]
        split_ifs
        · rfl
        · rfl
        · rcases getVarint (w + 1 - 7) bs with e | ⟨n, rest⟩ <;> rfl

theorem takesFront_takeBytes (k : Nat) : TakesFront (Codec.takeBytes k) := by
  intro bs bytes rest h
  unfold Codec.takeBytes at h
  split_ifs at h with hle
  obtain ⟨rfl, rfl⟩ := Prod.mk.inj (Except.ok.inj h)
  exact ⟨bs.take k, (List.take_append_drop k bs).symm,
    Codec.takeBytes_append (List.length_take_of_le hle)⟩

/-! ## Codecs -/

/-- a codec that takes what it reads from the front -/
class Codec.Delimited (c : Codec α) : Prop where
  takesFront : TakesFront c.get

namespace Codec

variable {c : Codec β} {d : Codec γ} {m n : Nat}

instance [h : c.Delimited] {split : α → β} {build : β → α} : (c.map split build).Delimited := ⟨h.takesFront.map build⟩

instance [h : c.Delimited] {split : α → β} {build : β → Except WireError α} : (c.filterMap split build).Delimited :=
  ⟨h.takesFront.andThen fun b => takesFront_ofExcept (build b)⟩

instance : u8.Delimited := ⟨takesFront_byte⟩

instance (w : Nat) : (varint w).Delimited := ⟨takesFront_getVarint w⟩

instance : i8.Delimited := inferInstanceAs (u8.map _ _).Delimited

instance : u16.Delimited := inferInstanceAs ((varint 16).map _ _).Delimited

instance : i16.Delimited := inferInstanceAs ((varint 16).map _ _).Delimited

instance : length.Delimited := inferInstanceAs (varint 64).Delimited

instance : bool.Delimited := inferInstanceAs (u8.filterMap _ _).Delimited

instance [DecidableEq α] [Choice α] : (choice : Codec α).Delimited :=
  inferInstanceAs ((varint 32).filterMap _ _).Delimited

instance {F : Type} [Flag F] : (flags : Codec (FlagSet F)).Delimited :=
  inferInstanceAs ((varint (Flag.width F)).map _ _).Delimited

instance [hc : c.Delimited] [hd : d.Delimited] : (c.pair d).Delimited :=
  ⟨hc.takesFront.andThen fun b => hd.takesFront.map fun v => (b, v)⟩

instance : unit.Delimited := ⟨takesFront_ok ()⟩

/-- the first byte tells how to read on -/
instance [h : c.Delimited] : c.optional.Delimited := by
  have hchain : TakesFront (andThen u8.get fun b bs =>
      if b = 0 then .ok (none, bs)
      else if b = 1 then (c.get bs).map fun (a, rest) => (some a, rest)
      else .error .badOption) := by
    refine takesFront_byte.andThen fun b => ?_
    split_ifs
    · exact takesFront_ok none
    · exact h.takesFront.map some
    · exact takesFront_error .badOption
  refine ⟨hchain.congr fun bs => ?_⟩
  cases bs <;> rfl

/-- the length tells how many bytes to take -/
instance (n : Nat) : (boundedText n).Delimited := by
  have hchain : TakesFront (andThen length.get fun size => andThen (takeBytes size) fun bytes rest =>
      (textOfBytes n bytes).map (·, rest)) :=
    (Delimited.takesFront (c := length)).andThen fun size =>
      (takesFront_takeBytes size).andThen fun bytes => takesFront_ofExcept (textOfBytes n bytes)
  refine ⟨hchain.congr fun bs => ?_⟩
  dsimp only [boundedText]
  unfold andThen
  rcases length.get bs with e | ⟨size, bs⟩
  · rfl
  · dsimp only
    rcases takeBytes size bs with e | ⟨bytes, rest⟩ <;> rfl

theorem takesFront_getItems [h : c.Delimited] (count room : Nat) : TakesFront (c.getItems count room) := by
  induction count generalizing room with
  | zero => exact (takesFront_ok BoundedList.empty).congr fun bs => by rw [getItems]
  | succ count ih =>
    cases room with
    | zero =>
      have hchain := h.takesFront.andThen fun _ => takesFront_error (α := BoundedList β 0) .tooLong
      refine hchain.congr fun bs => ?_
      rw [getItems]
      unfold andThen
      rcases c.get bs with e | ⟨a, rest⟩ <;> rfl
    | succ room =>
      have hchain := h.takesFront.andThen fun a => (ih room).map (BoundedList.cons a)
      refine hchain.congr fun bs => ?_
      rw [getItems]
      unfold andThen
      rcases c.get bs with e | ⟨a, rest⟩ <;> rfl

instance [c.Delimited] (n : Nat) : (c.boundedList n).Delimited := by
  have hchain : TakesFront (andThen length.get fun count => c.getItems count n) :=
    (Delimited.takesFront (c := length)).andThen fun count => takesFront_getItems count n
  refine ⟨hchain.congr fun bs => ?_⟩
  dsimp only [boundedList]
  unfold andThen
  rcases length.get bs with e | ⟨count, rest⟩ <;> rfl

theorem takesFront_getVector [h : c.Delimited] (n : Nat) : TakesFront (c.getVector n) := by
  induction n with
  | zero => exact takesFront_ok #v[]
  | succ n ih =>
    have hchain := ih.andThen fun v => h.takesFront.map v.push
    refine hchain.congr fun bs => ?_
    rw [getVector]
    unfold andThen
    rcases c.getVector n bs with e | ⟨v, rest⟩ <;> rfl

instance [c.Delimited] (n : Nat) : (c.vector n).Delimited := ⟨takesFront_getVector n⟩

/-! ## Stored forms -/

/-- bytes that were cut short are refused, because what they were cut from would have more bytes left -/
theorem get_cut_error [h : c.Delimited] {b : β} (hb : c.Restores m b) {cut : List UInt8} (hcut : cut <+: c.put b)
    (hshort : cut ≠ c.put b) : ∃ e, c.get cut = .error e := by
  rcases hget : c.get cut with e | ⟨b', rest⟩
  · exact ⟨e, rfl⟩
  · exfalso
    -- what was cut off would be left after reading the whole stored form, which leaves nothing
    obtain ⟨more, hmore⟩ := hcut
    obtain ⟨taken, rfl, htaken⟩ := h.takesFront cut b' rest hget
    have hfull : c.get (c.put b) = .ok (b', rest ++ more) := by
      rw [← hmore, List.append_assoc]
      exact htaken (rest ++ more)
    have hback : c.get (c.put b) = .ok (b, []) := by
      have hread := hb.get_put []
      rwa [List.append_nil] at hread
    have hleft : rest ++ more = [] := congrArg Prod.snd (Except.ok.inj (hfull.symm.trans hback))
    obtain ⟨-, rfl⟩ := List.append_eq_nil_iff.1 hleft
    exact hshort (by rwa [List.append_nil] at hmore)

/-- no stored form begins with that of another value -/
theorem put_prefix_iff {b b' : β} (h : c.Lawful m) : c.put b <+: c.put b' ↔ b = b' := by
  constructor
  · rintro ⟨more, hmore⟩
    have hread : c.get (c.put b') = .ok (b, more) := by
      rw [← hmore]
      exact (h b).get_put more
    have hback := (h b').get_put []
    rw [List.append_nil] at hback
    exact congrArg Prod.fst (Except.ok.inj (hread.symm.trans hback))
  · rintro rfl
    exact List.prefix_refl _

end Codec

/-! ## Buffers -/

/-- memory that is written from its front: the bytes written so far, and what still stands behind them -/
structure Buffer where
  written : List UInt8
  room : List UInt8

namespace Buffer

/-- the buffer after so many bytes more, if there is room for them -/
def put (b : Buffer) (chunk : List UInt8) : Except WireError Buffer :=
  if chunk.length ≤ b.room.length then .ok ⟨b.written ++ chunk, b.room.drop chunk.length⟩ else .error .bufferFull

/-- writes chunk after chunk, up to the first one without room -/
def putAll (b : Buffer) (chunks : List (List UInt8)) : Except WireError Buffer := chunks.foldlM put b

/-- chunks are written exactly if there is room for all their bytes, however the bytes are divided -/
theorem putAll_eq (chunks : List (List UInt8)) : ∀ b : Buffer, b.putAll chunks =
    if chunks.flatten.length ≤ b.room.length then .ok ⟨b.written ++ chunks.flatten, b.room.drop chunks.flatten.length⟩
    else .error .bufferFull := by
  induction chunks with
  | nil =>
    intro b
    rw [List.flatten_nil, List.length_nil, if_pos (Nat.zero_le _), List.append_nil]
    rfl
  | cons chunk chunks ih =>
    intro b
    have hlength : (chunk :: chunks).flatten.length = chunk.length + chunks.flatten.length := by
      rw [List.flatten_cons, List.length_append]
    show b.put chunk >>= (putAll · chunks) = _
    by_cases hchunk : chunk.length ≤ b.room.length
    · have hput : b.put chunk = .ok ⟨b.written ++ chunk, b.room.drop chunk.length⟩ := if_pos hchunk
      rw [hput]
      show putAll _ chunks = _
      rw [ih, hlength, List.flatten_cons, List.append_assoc, List.drop_drop, List.length_drop]
      exact if_congr (by omega) rfl rfl
    · have hput : b.put chunk = .error .bufferFull := if_neg hchunk
      rw [hput, if_neg (by omega)]
      rfl

end Buffer
end Wire

namespace Schema

open Codec

variable {α β γ : Type} {s : Schema β} {fs : Fields γ}

instance : done.wire.Delimited := inferInstanceAs unit.Delimited

instance [s.wire.Delimited] [fs.wire.Delimited] {name : String} : (field name s fs).wire.Delimited :=
  inferInstanceAs (s.wire.pair fs.wire).Delimited

instance [s.wire.Delimited] [fs.wire.Delimited] {name : String} {absent : β} :
    (fieldOr name absent s fs).wire.Delimited :=
  inferInstanceAs (s.wire.pair fs.wire).Delimited

instance [fs.wire.Delimited] {split : α → γ} {build : γ → α} : (record fs split build).wire.Delimited :=
  inferInstanceAs (fs.wire.map split build).Delimited

instance [s.wire.Delimited] {split : α → β} {build : β → α} : (s.map split build).wire.Delimited :=
  inferInstanceAs (s.wire.map split build).Delimited

instance [s.wire.Delimited] (n : Nat) : (s.vector n).wire.Delimited := inferInstanceAs (s.wire.vector n).Delimited

instance [s.wire.Delimited] (n : Nat) : (s.boundedList n).wire.Delimited :=
  inferInstanceAs (s.wire.boundedList n).Delimited

instance [s.wire.Delimited] : s.optional.wire.Delimited := inferInstanceAs s.wire.optional.Delimited

instance : u8.wire.Delimited := inferInstanceAs Codec.u8.Delimited

instance : u16.wire.Delimited := inferInstanceAs Codec.u16.Delimited

instance : i8.wire.Delimited := inferInstanceAs Codec.i8.Delimited

instance : i16.wire.Delimited := inferInstanceAs Codec.i16.Delimited

instance : bool.wire.Delimited := inferInstanceAs Codec.bool.Delimited

instance [DecidableEq α] [Choice α] : (choice : Schema α).wire.Delimited :=
  inferInstanceAs (Codec.choice : Codec α).Delimited

instance (n : Nat) : (boundedText n).wire.Delimited := inferInstanceAs (Codec.boundedText n).Delimited

instance {F : Type} [Flag F] : (flags : Schema (FlagSet F)).wire.Delimited :=
  inferInstanceAs (Codec.flags : Codec (FlagSet F)).Delimited

instance {F : Type} [Flag F] : (mask : Schema (FlagSet F)).wire.Delimited :=
  inferInstanceAs (Codec.flags : Codec (FlagSet F)).Delimited

end Schema

end FlightStore
