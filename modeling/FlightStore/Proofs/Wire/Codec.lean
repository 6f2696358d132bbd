/-
Codecs that restore what they write.

`Codec.Restores` says that one value is read back from its stored form, whatever bytes follow, and bounds the size of
that form; a lawful codec restores every value of its type within one bound. The lemmas follow the combinators: from
the parts of a record, of a list or of an array to the whole.
-/
import FlightStore.Proofs.Wire.Varint
import FlightStore.Wire.Codec

namespace FlightStore

/-- a closed choice that lists every value, in a list short enough for positions of one byte -/
class LawfulChoice (α : Type) [Choice α] : Prop where
  mem_all : ∀ a : α, a ∈ (Choice.all : List α)
  few : (Choice.all : List α).length ≤ 128

namespace Wire.Codec

variable {α β γ : Type} {c : Codec β} {d : Codec γ} {m n : Nat}

/-- a value is read back from its stored form, which has at most `m` bytes -/
structure Restores (c : Codec α) (m : Nat) (a : α) : Prop where
  get_put : ∀ rest, c.get (c.put a ++ rest) = .ok (a, rest)
  size_le : (c.put a).length ≤ m

/-- every value is read back from its stored form, which has at most `m` bytes -/
def Lawful (c : Codec α) (m : Nat) : Prop := ∀ a, c.Restores m a

theorem Lawful.mono (h : c.Lawful m) (hmn : m ≤ n) : c.Lawful n := fun a =>
  ⟨(h a).get_put, Nat.le_trans (h a).size_le hmn⟩

/-! ## Values that stand for others -/

theorem Restores.map {split : α → β} {build : β → α} {a : α} (h : c.Restores m (split a))
    (hback : build (split a) = a) : (c.map split build).Restores m a := by
  refine ⟨fun rest => ?_, h.size_le⟩
  show (c.get (c.put (split a) ++ rest)).map _ = _
  rw [h.get_put]
  show Except.ok (build (split a), rest) = _
  rw [hback]

theorem Restores.filterMap {split : α → β} {build : β → Except WireError α} {a : α} (h : c.Restores m (split a))
    (hback : build (split a) = .ok a) : (c.filterMap split build).Restores m a := by
  refine ⟨fun rest => ?_, h.size_le⟩
  simp only [Codec.filterMap, h.get_put, hback]
  rfl

theorem Lawful.map {split : α → β} {build : β → α} (h : c.Lawful m) (hback : ∀ a, build (split a) = a) :
    (c.map split build).Lawful m := fun a => (h (split a)).map (hback a)

/-! ## Numbers and choices -/

theorem lawful_u8 : u8.Lawful 1 := fun _ => ⟨fun _ => rfl, Nat.le_refl 1⟩

theorem lawful_i8 : i8.Lawful 1 := lawful_u8.map fun v => Int8.toInt8_toUInt8 v

/-- a number of `w` bits takes a byte for every seven of them -/
theorem restores_varint {w k v : Nat} (hw : 0 < w) (hk : w ≤ 7 * (k + 1)) (hv : v < 2 ^ w) :
    (varint w).Restores (k + 1) v := by
  refine ⟨getVarint_putVarint hw hv, length_putVarint_le ?_⟩
  calc v < 2 ^ w := hv
    _ ≤ 2 ^ (7 * (k + 1)) := Nat.pow_le_pow_right (by decide) hk
    _ = 128 ^ (k + 1) := by rw [Nat.pow_mul]

/-- a number of seven bits takes one byte, whatever the width -/
theorem restores_varint_byte {w v : Nat} (hw : 7 ≤ w) (hv : v < 128) : (varint w).Restores 1 v := by
  have hlt : v < 2 ^ w :=
    calc v < 2 ^ 7 := hv
      _ ≤ 2 ^ w := Nat.pow_le_pow_right (by decide) hw
  exact ⟨getVarint_putVarint (Nat.lt_of_lt_of_le (by decide) hw) hlt, length_putVarint_le hv⟩

theorem lawful_u16 : u16.Lawful 3 := fun v => by
  have hnumber : (varint 16).Restores 3 v.toNat := restores_varint (by decide) (by decide) v.toNat_lt
  exact hnumber.map UInt16.ofNat_toNat

theorem lawful_i16 : i16.Lawful 3 := fun v => by
  have hplace : zigzag v.toInt < 2 ^ 16 := zigzag_lt v.le_toInt v.toInt_lt
  have hnumber : (varint 16).Restores 3 (zigzag v.toInt) := restores_varint (by decide) (by decide) hplace
  refine Restores.map (a := v) hnumber ?_
  rw [unzigzag_zigzag]
  exact Int16.ofInt_toInt v

theorem lawful_bool : bool.Lawful 1 := fun b => (lawful_u8 _).filterMap (by cases b <;> rfl)

theorem lawful_choice [DecidableEq α] [Choice α] [LawfulChoice α] : (choice : Codec α).Lawful 1 := fun a => by
  have hmem : a ∈ (Choice.all : List α) := LawfulChoice.mem_all a
  have hindex : Choice.index a < (Choice.all : List α).length := List.idxOf_lt_length_of_mem hmem
  have hfew : (Choice.all : List α).length ≤ 128 := LawfulChoice.few
  refine (restores_varint_byte (by decide) (Nat.lt_of_lt_of_le hindex hfew)).filterMap ?_
  have hback : (Choice.all : List α)[Choice.index a]? = some a := List.getElem?_idxOf hmem
  rw [hback]

theorem lawful_flags {F : Type} [Flag F] {k : Nat} (hw : 0 < Flag.width F) (hk : Flag.width F ≤ 7 * (k + 1)) :
    (flags : Codec (FlagSet F)).Lawful (k + 1) := fun s => by
  have hnumber : (varint (Flag.width F)).Restores (k + 1) s.toNat := restores_varint hw hk s.bits.isLt
  refine hnumber.map (FlagSet.ext ?_)
  exact (BitVec.ofNat_toNat _ s.bits).trans (BitVec.setWidth_eq s.bits)

/-! ## Records -/

theorem Lawful.pair (hc : c.Lawful m) (hd : d.Lawful n) : (c.pair d).Lawful (m + n) := fun p => by
  obtain ⟨b, v⟩ := p
  refine ⟨fun rest => ?_, ?_⟩
  · simp only [Codec.pair, List.append_assoc, (hc b).get_put, (hd v).get_put]
    rfl
  · show (c.put b ++ d.put v).length ≤ m + n
    rw [List.length_append]
    exact Nat.add_le_add (hc b).size_le (hd v).size_le

theorem lawful_unit : unit.Lawful 0 := fun _ => ⟨fun _ => rfl, Nat.le_refl 0⟩

theorem Lawful.optional (h : c.Lawful m) : c.optional.Lawful (m + 1) := fun o => by
  cases o with
  | none => exact ⟨fun _ => rfl, Nat.succ_le_succ (Nat.zero_le m)⟩
  | some b =>
    refine ⟨fun rest => ?_, Nat.succ_le_succ (h b).size_le⟩
    show (c.get (c.put b ++ rest)).map _ = _
    rw [(h b).get_put]
    rfl

/-! ## Text -/

theorem takeBytes_append {k : Nat} {bytes : List UInt8} (hk : bytes.length = k) (rest : List UInt8) :
    takeBytes k (bytes ++ rest) = .ok (bytes, rest) := by
  subst hk
  have hle : bytes.length ≤ (bytes ++ rest).length := by simp
  rw [takeBytes, if_pos hle, List.take_left, List.drop_left]

theorem textOfBytes_toUTF8 (s : BoundedString n) : textOfBytes n s.text.toUTF8.data.toList = .ok s := by
  have hback : String.fromUTF8? (ByteArray.mk s.text.toUTF8.data.toList.toArray) = some s.text := by
    rw [Array.toArray_toList]
    exact dif_pos s.text.isValidUTF8
  simp only [textOfBytes, hback, BoundedString.ofString?_text]

theorem lawful_boundedText (hn : n < 128) : (boundedText n).Lawful (1 + n) := fun s => by
  have hsize : s.text.toUTF8.data.toList.length = s.text.utf8ByteSize := Array.length_toList
  have hlength : length.Restores 1 s.text.utf8ByteSize :=
    restores_varint_byte (by decide) (Nat.lt_of_le_of_lt s.size_le hn)
  refine ⟨fun rest => ?_, ?_⟩
  · simp only [boundedText, List.append_assoc, hlength.get_put, takeBytes_append hsize, textOfBytes_toUTF8]
    rfl
  · show (length.put s.text.utf8ByteSize ++ s.text.toUTF8.data.toList).length ≤ 1 + n
    rw [List.length_append, hsize]
    exact Nat.add_le_add hlength.size_le s.size_le

/-! ## Lists and arrays -/

theorem length_flatMap_put_le (h : c.Lawful m) (items : List β) : (items.flatMap c.put).length ≤ items.length * m := by
  induction items with
  | nil => exact Nat.zero_le _
  | cons a items ih =>
    have ha : (c.put a).length ≤ m := (h a).size_le
    calc ((a :: items).flatMap c.put).length = (c.put a).length + (items.flatMap c.put).length := by
          rw [List.flatMap_cons, List.length_append]
      _ ≤ m + items.length * m := Nat.add_le_add ha ih
      _ = (items.length + 1) * m := by rw [Nat.succ_mul, Nat.add_comm]

theorem getItems_flatMap_put (h : c.Lawful m) (rest : List UInt8) (l : BoundedList β n) :
    c.getItems l.items.length n (l.items.flatMap c.put ++ rest) = .ok (l, rest) := by
  obtain ⟨items, hle⟩ := l
  induction items generalizing n with
  | nil => rfl
  | cons a items ih =>
    obtain ⟨room, rfl⟩ := Nat.exists_eq_add_one_of_ne_zero (Nat.ne_of_gt (Nat.lt_of_lt_of_le (Nat.succ_pos _) hle))
    have hitems := ih (Nat.le_of_succ_le_succ hle)
    simp only [List.flatMap_cons, List.length_cons, List.append_assoc, getItems, (h a).get_put]
    dsimp only at hitems
    rw [hitems]
    rfl

theorem Lawful.boundedList (h : c.Lawful m) (hn : n < 128) : (c.boundedList n).Lawful (1 + n * m) := fun l => by
  have hlength : length.Restores 1 l.items.length :=
    restores_varint_byte (by decide) (Nat.lt_of_le_of_lt l.length_le hn)
  refine ⟨fun rest => ?_, ?_⟩
  · simp only [Codec.boundedList, List.append_assoc, hlength.get_put]
    exact getItems_flatMap_put h rest l
  · show (length.put l.items.length ++ l.items.flatMap c.put).length ≤ 1 + n * m
    rw [List.length_append]
    refine Nat.add_le_add hlength.size_le ?_
    exact Nat.le_trans (length_flatMap_put_le h l.items) (Nat.mul_le_mul_right m l.length_le)

theorem getVector_flatMap_put (h : c.Lawful m) (rest : List UInt8) (v : Vector β n) :
    c.getVector n (v.toList.flatMap c.put ++ rest) = .ok (v, rest) := by
  induction n generalizing rest with
  | zero =>
    obtain rfl : v = #v[] := Vector.eq_empty
    rfl
  | succ n ih =>
    obtain ⟨front, last, rfl⟩ : ∃ (front : Vector β n) (last : β), v = front.push last :=
      ⟨v.pop, v.back, (Vector.push_pop_back v).symm⟩
    have hfront := ih (c.put last ++ rest) front
    simp only [Vector.toList_push, List.flatMap_append, List.flatMap_singleton, List.append_assoc]
    rw [getVector, hfront]
    dsimp only
    rw [(h last).get_put]
    rfl

theorem Lawful.vector (h : c.Lawful m) (n : Nat) : (c.vector n).Lawful (n * m) := fun v => by
  refine ⟨fun rest => getVector_flatMap_put h rest v, ?_⟩
  have hlength := length_flatMap_put_le h v.toList
  rwa [Vector.length_toList] at hlength

end Wire.Codec
end FlightStore
