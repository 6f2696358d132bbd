/-
What the identifier of a target keeps of the name of a board.

An identifier holds four bytes, and of a name the first four characters are pushed one after the other. A character
without room is left out and the next one is tried, so a narrow character may overtake a wide one (`Overtaken`). Then,
and only then, the identifier is not a truncation of the name. It always keeps as much of the beginning as fits, a name
that fits is kept whole, and a name in ASCII is cut after four characters. `Abbreviates` says this of a name and an
identifier, and `boardIdentifier_abbreviates` proves it of every name.

A name that is not truncated: `boardIdentifier_skips_euro`.
-/
import Mathlib.Tactic
import FlightStore.Board.Target

namespace FlightStore

/-! ## Widths in bytes -/

namespace Text

variable {room n : Nat} {c : Char} {cs : List Char}

/-- bytes of some characters in UTF-8 -/
def width (cs : List Char) : Nat := (cs.map Char.utf8Size).sum

@[simp] theorem width_nil : width [] = 0 := rfl

@[simp] theorem width_cons (c : Char) (cs : List Char) : width (c :: cs) = c.utf8Size + width cs := by
  simp [width]

theorem width_append (as bs : List Char) : width (as ++ bs) = width as + width bs := by
  simp [width]

/-- a string is as wide as its characters -/
theorem width_toList (s : String) : width s.toList = s.utf8ByteSize := by
  induction s using String.push_induction with
  | empty => rfl
  | push s c ih =>
    rw [String.toList_push, width_append, ih, String.utf8ByteSize_push, width_cons, width_nil, Nat.add_zero]

theorem length_le_width (cs : List Char) : cs.length ≤ width cs := by
  have h := List.length_le_sum_of_one_le (cs.map Char.utf8Size) (by simpa using fun c _ => c.utf8Size_pos)
  simpa [width] using h

theorem width_of_ascii (h : ∀ c ∈ cs, c.utf8Size = 1) : width cs = cs.length := by
  rw [width, List.map_congr_left h]
  simp

/-! ## Characters that find room -/

/-- the characters that find room, one after the other -/
def fitting : Nat → List Char → List Char
  | _, [] => []
  | room, c :: cs => if c.utf8Size ≤ room then c :: fitting (room - c.utf8Size) cs else fitting room cs

theorem fitting_cons_of_le (h : c.utf8Size ≤ room) (cs : List Char) :
    fitting room (c :: cs) = c :: fitting (room - c.utf8Size) cs := if_pos h

theorem fitting_cons_of_lt (h : room < c.utf8Size) (cs : List Char) :
    fitting room (c :: cs) = fitting room cs := if_neg (Nat.not_le.2 h)

theorem fitting_sublist (room : Nat) (cs : List Char) : (fitting room cs).Sublist cs := by
  induction cs generalizing room with
  | nil => exact List.Sublist.slnil
  | cons c cs ih =>
    unfold fitting
    split_ifs
    · exact (ih _).cons_cons c
    · exact (ih room).cons c

theorem utf8Size_le_of_mem_fitting (h : c ∈ fitting room cs) : c.utf8Size ≤ room := by
  induction cs generalizing room with
  | nil => cases h
  | cons d cs ih =>
    rcases Nat.lt_or_ge room d.utf8Size with hd | hd
    · rw [fitting_cons_of_lt hd] at h
      exact ih h
    · rw [fitting_cons_of_le hd, List.mem_cons] at h
      rcases h with rfl | h
      · exact hd
      · exact Nat.le_trans (ih h) (Nat.sub_le _ _)

theorem fitting_eq_nil_iff : fitting room cs = [] ↔ ∀ c ∈ cs, room < c.utf8Size := by
  induction cs with
  | nil => simp [fitting]
  | cons c cs ih =>
    rcases Nat.lt_or_ge room c.utf8Size with hc | hc
    · simp [fitting_cons_of_lt hc, ih, hc]
    · simp [fitting_cons_of_le hc, Nat.not_lt.2 hc]

/-- characters that fit together are all kept, and those behind them share the room that is left -/
theorem fitting_append {as : List Char} (h : width as ≤ room) (bs : List Char) :
    fitting room (as ++ bs) = as ++ fitting (room - width as) bs := by
  induction as generalizing room with
  | nil => simp
  | cons a as ih =>
    rw [width_cons] at h
    have hrest : width as ≤ room - a.utf8Size := by omega
    rw [List.cons_append, fitting_cons_of_le (by omega), ih hrest, List.cons_append, width_cons, Nat.sub_sub]

theorem fitting_eq_self (h : width cs ≤ room) : fitting room cs = cs := by
  simpa [fitting] using fitting_append h []

/-! ## Characters that are overtaken -/

/-- behind what stands before it, a character lacks the room that a later one still finds there -/
def Overtaken (room : Nat) (cs : List Char) : Prop :=
  ∃ start c between d rest, cs = start ++ c :: (between ++ d :: rest) ∧
    room < width start + c.utf8Size ∧ width start + d.utf8Size ≤ room

theorem not_overtaken_nil (room : Nat) : ¬ Overtaken room [] := by
  rintro ⟨start, c, between, d, rest, h, -⟩
  simp at h

/-- a character without room is overtaken by any that finds some -/
theorem overtaken_cons_of_lt (h : room < c.utf8Size) (cs : List Char) :
    Overtaken room (c :: cs) ↔ ∃ d ∈ cs, d.utf8Size ≤ room := by
  constructor
  · rintro ⟨start, b, between, d, rest, heq, -, hd⟩
    cases start with
    | nil =>
      obtain ⟨rfl, rfl⟩ := List.cons.inj heq
      exact ⟨d, by simp, by simpa using hd⟩
    | cons a start =>
      obtain ⟨rfl, -⟩ := List.cons.inj heq
      rw [width_cons] at hd
      omega
  · rintro ⟨d, hmem, hd⟩
    obtain ⟨between, rest, rfl⟩ := List.append_of_mem hmem
    exact ⟨[], c, between, d, rest, rfl, by simpa using h, by simpa using hd⟩

/-- behind a character that fits, the others share the room that is left -/
theorem overtaken_cons_of_le (h : c.utf8Size ≤ room) (cs : List Char) :
    Overtaken room (c :: cs) ↔ Overtaken (room - c.utf8Size) cs := by
  constructor
  · rintro ⟨start, b, between, d, rest, heq, hb, hd⟩
    cases start with
    | nil =>
      obtain ⟨rfl, -⟩ := List.cons.inj heq
      rw [width_nil] at hb
      omega
    | cons a start =>
      obtain ⟨rfl, rfl⟩ := List.cons.inj heq
      rw [width_cons] at hb hd
      exact ⟨start, b, between, d, rest, rfl, by omega, by omega⟩
  · rintro ⟨start, b, between, d, rest, rfl, hb, hd⟩
    refine ⟨c :: start, b, between, d, rest, rfl, ?_, ?_⟩ <;> rw [width_cons] <;> omega

/-- the characters that find room are a beginning unless one is overtaken -/
theorem fitting_prefix_iff : fitting room cs <+: cs ↔ ¬ Overtaken room cs := by
  induction cs generalizing room with
  | nil => exact iff_of_true List.prefix_rfl (not_overtaken_nil room)
  | cons c cs ih =>
    rcases Nat.lt_or_ge room c.utf8Size with hc | hc
    · -- nothing can begin with a character that was left out
      have hnone : (¬ ∃ d ∈ cs, d.utf8Size ≤ room) ↔ fitting room cs = [] := by
        simp [fitting_eq_nil_iff]
      rw [fitting_cons_of_lt hc, overtaken_cons_of_lt hc, hnone]
      constructor
      · intro h
        cases hkept : fitting room cs with
        | nil => rfl
        | cons d kept =>
          have hd : d.utf8Size ≤ room := utf8Size_le_of_mem_fitting (hkept ▸ List.mem_cons_self)
          rw [hkept, List.cons_prefix_cons] at h
          rw [h.1] at hd
          omega
      · intro h
        rw [h]
        exact List.nil_prefix
    · rw [fitting_cons_of_le hc, overtaken_cons_of_le hc, List.cons_prefix_cons, ← ih]
      simp

/-! ## The first characters -/

/-- of the first characters, as many as there are bytes, those that find room keep the beginning that fits -/
theorem prefix_fitting_take {start rest : List Char} (h : width start ≤ n) :
    start <+: fitting n ((start ++ rest).take n) := by
  have hlength : start.length ≤ n := Nat.le_trans (length_le_width start) h
  rw [List.take_append, List.take_of_length_le hlength, fitting_append h]
  exact List.prefix_append _ _

theorem fitting_take_eq_self (h : width cs ≤ n) : fitting n (cs.take n) = cs := by
  rw [List.take_of_length_le (Nat.le_trans (length_le_width cs) h), fitting_eq_self h]

theorem fitting_take_of_ascii (h : ∀ c ∈ cs, c.utf8Size = 1) : fitting n (cs.take n) = cs.take n := by
  have hwidth : width (cs.take n) = (cs.take n).length := width_of_ascii fun c hc => h c (List.mem_of_mem_take hc)
  exact fitting_eq_self (by rw [hwidth]; exact List.length_take_le n cs)

theorem fitting_take_prefix_iff : fitting n (cs.take n) <+: cs ↔ ¬ Overtaken n (cs.take n) := by
  rw [← fitting_prefix_iff]
  constructor
  · intro h
    exact List.prefix_of_prefix_length_le h (List.take_prefix n cs) (fitting_sublist n _).length_le
  · intro h
    exact h.trans (List.take_prefix n cs)

end Text

/-! ## Pushing characters -/

namespace BoundedString

variable {n : Nat}

theorem text_push_of_le {s : BoundedString n} {c : Char} (h : s.text.utf8ByteSize + c.utf8Size ≤ n) :
    (s.push c).text = s.text.push c := by
  simp [push, ofString?, h]

theorem push_of_lt {s : BoundedString n} {c : Char} (h : n < s.text.utf8ByteSize + c.utf8Size) : s.push c = s := by
  simp [push, ofString?, Nat.not_le.2 h]

theorem toList_foldl_push (s : BoundedString n) (cs : List Char) :
    (cs.foldl push s).text.toList = s.text.toList ++ Text.fitting (n - s.text.utf8ByteSize) cs := by
  have hsize := s.size_le
  induction cs generalizing s with
  | nil => simp [Text.fitting]
  | cons c cs ih =>
    rw [List.foldl_cons, ih _ (s.push c).size_le]
    rcases Nat.lt_or_ge n (s.text.utf8ByteSize + c.utf8Size) with hc | hc
    · rw [push_of_lt hc, Text.fitting_cons_of_lt (by omega)]
    · rw [text_push_of_le hc, Text.fitting_cons_of_le (by omega), String.toList_push, String.utf8ByteSize_push,
        Nat.sub_sub, List.append_assoc, List.singleton_append]

/-- a string made of characters has those that find room -/
theorem toList_ofChars (cs : List Char) : (ofChars cs : BoundedString n).text.toList = Text.fitting n cs := by
  rw [ofChars, toList_foldl_push]
  simp [empty]

end BoundedString

/-! ## Identifiers -/

namespace Target

/-- what an identifier keeps of the name of a board -/
structure Abbreviates (board identifier : String) : Prop where
  size : identifier.utf8ByteSize ≤ 4
  /-- a name that fits is kept whole -/
  whole : board.utf8ByteSize ≤ 4 → identifier = board
  /-- as much of the beginning is kept as fits -/
  beginning : ∀ start rest, board.toList = start ++ rest → Text.width start ≤ 4 → start <+: identifier.toList
  /-- nothing is moved or made up, and nothing behind the fourth character is looked at -/
  order : identifier.toList.Sublist (board.toList.take 4)
  ascii : (∀ c ∈ board.toList, c.utf8Size = 1) → identifier.toList = board.toList.take 4
  /-- it is a truncation unless one of the first four characters is overtaken -/
  truncation_iff : identifier.toList <+: board.toList ↔ ¬ Text.Overtaken 4 (board.toList.take 4)

/-- **An identifier abbreviates the name.** For every name of a board, the identifier keeps the beginning that fits into
four bytes, and it is a truncation exactly if no character among the first four is overtaken. -/
theorem boardIdentifier_abbreviates (board : String) (caps : Capabilities) :
    Abbreviates board (ofBoard board caps).boardIdentifier.text := by
  have hkept : (ofBoard board caps).boardIdentifier.text.toList = Text.fitting 4 (board.toList.take 4) :=
    BoundedString.toList_ofChars _
  refine ⟨(ofBoard board caps).boardIdentifier.size_le, fun hfits => ?_, fun start rest hboard hfits => ?_, ?_,
    fun hascii => ?_, ?_⟩
  · rw [← Text.width_toList] at hfits
    rw [← String.toList_inj, hkept, Text.fitting_take_eq_self hfits]
  · rw [hkept, hboard]
    exact Text.prefix_fitting_take hfits
  · rw [hkept]
    exact Text.fitting_sublist 4 _
  · rw [hkept, Text.fitting_take_of_ascii hascii]
  · rw [hkept, Text.fitting_take_prefix_iff]

/-- three bytes for `€` are too many behind `ab`, and the `c` behind it finds room -/
theorem boardIdentifier_skips_euro :
    (ofBoard "ab€c" .declared).boardIdentifier.text = "abc" ∧
      ¬ (ofBoard "ab€c" .declared).boardIdentifier.text.toList <+: "ab€c".toList := by
  decide

end Target
end FlightStore
