/-
Written values are read back.

A value is `Solid` if it holds whole numbers only, and no broken text: of such a value nothing is lost when it is
written. The reader takes its written form off the front of a text, at any level and whatever follows that could not
belong to a number (`Solid.reads`), by induction on the value. Each step of the reader pays for a character, so the budget
that it derives from the length of a text is enough, and a text that holds a value and blanks behind it is read as this
value (`parse_chars`).
-/
import Mathlib.Data.List.DropRight
import FlightStore.Proofs.Json.Lexemes

namespace FlightStore.Json

/-- a value without numbers other than whole ones, and without broken text -/
inductive Solid : Json → Prop
  | null : Solid .null
  | bool (b : Bool) : Solid (.bool b)
  | int (i : Int) : Solid (.int i)
  | str (s : String) : Solid (.str s)
  | arr {js : List Json} (h : ∀ j ∈ js, Solid j) : Solid (.arr js)
  | obj {ms : List (String × Json)} (h : ∀ m ∈ ms, Solid m.2) : Solid (.obj ms)

/-! ## Blanks -/

theorem skipSpaces_cons {b : UInt8} (h : isSpace b = false) (bs : List UInt8) : skipSpaces (b :: bs) = b :: bs :=
  List.dropWhile_cons_of_neg (Bool.eq_false_iff.1 h)

theorem skipSpaces_append {blanks : List UInt8} (h : ∀ b ∈ blanks, isSpace b = true) (bs : List UInt8) :
    skipSpaces (blanks ++ bs) = skipSpaces bs := List.dropWhile_append_of_pos h

theorem isSpace_of_mem_newline {level : Nat} {b : UInt8} (h : b ∈ utf8 (newline level)) : isSpace b = true := by
  simp only [newline, utf8, List.flatMap_cons, List.mem_append, List.mem_flatMap, List.mem_replicate] at h
  rcases h with h | ⟨c, ⟨-, rfl⟩, h⟩
  · rw [List.mem_singleton.1 h]
    decide
  · rw [List.mem_singleton.1 h]
    decide

theorem skipSpaces_newline (level : Nat) (bs : List UInt8) : skipSpaces (utf8 (newline level) ++ bs) = skipSpaces bs :=
  skipSpaces_append (fun _ hb => isSpace_of_mem_newline hb) bs

theorem skipSpaces_skipSpaces (bs : List UInt8) : skipSpaces (skipSpaces bs) = skipSpaces bs :=
  List.dropWhile_idempotent isSpace bs

/-- blanks in front of a value do not count -/
theorem value?_skipSpaces (budget : Nat) (bs : List UInt8) : value? budget (skipSpaces bs) = value? budget bs := by
  cases budget with
  | zero => rfl
  | succ budget => simp only [value?, skipSpaces_skipSpaces]

theorem items?_skipSpaces (budget : Nat) (bs : List UInt8) : items? budget (skipSpaces bs) = items? budget bs := by
  cases budget with
  | zero => rfl
  | succ budget => simp only [items?, value?_skipSpaces]

theorem members?_skipSpaces (budget : Nat) (bs : List UInt8) : members? budget (skipSpaces bs) = members? budget bs := by
  cases budget with
  | zero => rfl
  | succ budget => simp only [members?, skipSpaces_skipSpaces]

theorem value?_newline (budget level : Nat) (bs : List UInt8) :
    value? budget (utf8 (newline level) ++ bs) = value? budget bs := by
  rw [← value?_skipSpaces, skipSpaces_newline, value?_skipSpaces]

/-- a blank ends a number -/
theorem endsNumber_of_isSpace {b : UInt8} (h : isSpace b = true) (bs : List UInt8) : EndsNumber (b :: bs) := by
  rintro _ ⟨⟩
  simp only [isSpace, Bool.or_eq_true, decide_eq_true_eq] at h
  rcases h with ((rfl | rfl) | rfl) | rfl <;> decide

theorem endsNumber_newline (level : Nat) (bs : List UInt8) : EndsNumber (utf8 (newline level) ++ bs) :=
  endsNumber_of_isSpace (b := 0x0a) rfl _

theorem endsNumber_comma (bs : List UInt8) : EndsNumber (0x2c :: bs) := by
  rintro _ ⟨⟩
  decide

/-! ## Values without parts -/

theorem value?_number (budget : Nat) {b : UInt8} (h : isDigit b = true ∨ b = 0x2d) (bs : List UInt8) :
    value? (budget + 1) (b :: bs) = number? (b :: bs) := by
  have hspace : isSpace b = false := by
    rcases h with h | rfl
    · rw [← Bool.not_eq_true]
      intro hs
      have hends := (endsNumber_of_isSpace hs bs b rfl).1
      exact absurd h (Bool.eq_false_iff.1 hends)
    · rfl
  have hne : ∀ c : UInt8, isDigit c = false → c ≠ 0x2d → b ≠ c := by
    rintro c hc hdash rfl
    exact h.elim (Bool.eq_false_iff.1 hc) hdash
  rw [value?, skipSpaces_cons hspace]
  split
  all_goals rename_i heq
  all_goals first
    | rfl
    | exact absurd (List.cons.inj heq).1 (hne _ (by decide) (by decide))

theorem value?_integer (budget : Nat) (i : Int) (rest : List UInt8) :
    value? (budget + 1) (utf8 (integer i) ++ rest) = number? (utf8 (integer i) ++ rest) := by
  cases i with
  | ofNat n =>
    obtain ⟨b, bs, hbytes, hdigit⟩ := exists_utf8_decimal n
    show value? (budget + 1) (utf8 (Text.decimal n) ++ rest) = number? (utf8 (Text.decimal n) ++ rest)
    rw [hbytes, List.cons_append, value?_number budget (Or.inl hdigit)]
  | negSucc n => exact value?_number budget (Or.inr rfl) _

/-- a text in quotes, at its opening quote -/
theorem utf8_quote (s : String) (rest : List UInt8) :
    utf8 (quote s) ++ rest = 0x22 :: (utf8 (s.toList.flatMap escape) ++ 0x22 :: rest) := by
  show 0x22 :: (utf8 (s.toList.flatMap escape ++ ['"']) ++ rest) = _
  rw [utf8_append, List.append_assoc]
  rfl

theorem value?_quote (budget : Nat) (s : String) (rest : List UInt8) :
    value? (budget + 1) (utf8 (quote s) ++ rest) = some (.str s, rest) := by
  rw [utf8_quote, value?, skipSpaces_cons rfl]
  simp [text?_quote]

/-! ## Arrays -/

/-- the reader takes the written form of a value off the front of a text -/
def Reads (j : Json) : Prop :=
  ∀ (level budget : Nat) (rest : List UInt8), EndsNumber rest → (chars level j).length ≤ budget →
    value? budget (utf8 (chars level j) ++ rest) = some (j, rest)

/-- no item starts with a closing bracket -/
theorem skipSpaces_ne_bracket {budget : Nat} {bs bs' : List UInt8} {r : List Json × List UInt8}
    (h : items? budget bs = some r) : skipSpaces bs ≠ 0x5d :: bs' := by
  intro heq
  rw [← items?_skipSpaces, heq] at h
  obtain _ | _ | budget := budget <;> cases h

/-- an array that has items -/
theorem value?_items {budget : Nat} {bs rest : List UInt8} {js : List Json} (h : items? budget bs = some (js, rest)) :
    value? (budget + 1) (0x5b :: bs) = some (.arr js, rest) := by
  simp only [value?, skipSpaces_cons (b := 0x5b) rfl]
  split
  · rename_i hbracket
    exact absurd hbracket (skipSpaces_ne_bracket h)
  · rw [items?_skipSpaces, h]
    rfl

/-- the items of an array, behind the bracket or the comma in front of them -/
theorem items?_items {js : List Json} {j : Json} (h : ∀ i ∈ j :: js, Reads i) (level level' budget : Nat) (mark : Char)
    (rest : List UInt8) (hbudget : (itemChars level mark (j :: js)).length ≤ budget) :
    items? budget (utf8 (itemChars level mark (j :: js)).tail ++ (utf8 (newline level') ++ 0x5d :: rest)) =
      some (j :: js, rest) := by
  induction js generalizing j budget mark with
  | nil =>
    simp only [itemChars, List.append_nil, List.length_cons, List.length_append] at hbudget
    obtain ⟨budget, rfl⟩ := Nat.exists_eq_add_one_of_ne_zero (show budget ≠ 0 by omega)
    have hvalue := h j List.mem_cons_self level budget _ (endsNumber_newline level' (0x5d :: rest)) (by omega)
    simp only [itemChars, List.append_nil, List.tail_cons]
    rw [utf8_append, List.append_assoc, items?, value?_newline, hvalue]
    simp only [skipSpaces_newline, skipSpaces_cons (b := 0x5d) rfl]
  | cons j' js ih =>
    have hcount : (itemChars level mark (j :: j' :: js)).length =
        (newline level).length + (chars level j).length + (itemChars level ',' (j' :: js)).length + 1 := by
      rw [itemChars, List.length_cons, List.length_append, List.length_append]
    obtain ⟨budget, rfl⟩ := Nat.exists_eq_add_one_of_ne_zero (show budget ≠ 0 by omega)
    -- behind the value stand a comma and the other items
    have hitems := ih (fun i hi => h i (List.mem_cons_of_mem j hi)) budget ',' (by omega)
    have hcomma : utf8 (itemChars level ',' (j' :: js)) = 0x2c :: utf8 (itemChars level ',' (j' :: js)).tail := rfl
    have hvalue := fun rest => h j List.mem_cons_self level budget _ (endsNumber_comma rest) (by omega)
    rw [itemChars, List.tail_cons, utf8_append, utf8_append, List.append_assoc, List.append_assoc, hcomma,
      List.cons_append, items?, value?_newline, hvalue]
    simp only [skipSpaces_cons (b := 0x2c) rfl, hitems, Option.map_some]

/-! ## Objects -/

/-- the start of a member: its name, a colon and a blank -/
theorem utf8_member (level : Nat) (name : String) (cs : List Char) (rest : List UInt8) :
    utf8 (newline level ++ quote name ++ ':' :: ' ' :: cs) ++ rest =
      utf8 (newline level) ++ (0x22 :: (utf8 (name.toList.flatMap escape) ++ 0x22 :: 0x3a :: 0x20 :: (utf8 cs ++ rest))) := by
  rw [utf8_append, utf8_append, List.append_assoc, List.append_assoc, utf8_quote]
  rfl

/-- blanks do not count between a colon and a value -/
theorem value?_blank (budget : Nat) (bs : List UInt8) : value? budget (0x20 :: bs) = value? budget bs := by
  rw [← value?_skipSpaces budget bs, ← value?_skipSpaces budget (0x20 :: bs)]
  rfl

/-- no member starts with a closing brace -/
theorem skipSpaces_ne_brace {budget : Nat} {bs bs' : List UInt8} {r : List (Option String × Json) × List UInt8}
    (h : members? budget bs = some r) : skipSpaces bs ≠ 0x7d :: bs' := by
  intro heq
  rw [← members?_skipSpaces, heq] at h
  obtain _ | budget := budget <;> cases h

/-- the members of an object, behind the brace or the comma in front of them -/
theorem members?_members {ms : List (String × Json)} {m : String × Json} (h : ∀ p ∈ m :: ms, Reads p.2)
    (level level' budget : Nat) (mark : Char) (rest : List UInt8)
    (hbudget : (memberChars level mark (m :: ms)).length ≤ budget) :
    members? budget (utf8 (memberChars level mark (m :: ms)).tail ++ (utf8 (newline level') ++ 0x7d :: rest)) =
      some ((m :: ms).map fun p => (some p.1, p.2), rest) := by
  induction ms generalizing m budget mark with
  | nil =>
    simp only [memberChars, List.append_nil, List.length_cons, List.length_append] at hbudget
    obtain ⟨budget, rfl⟩ := Nat.exists_eq_add_one_of_ne_zero (show budget ≠ 0 by omega)
    have hvalue := h m List.mem_cons_self level budget _ (endsNumber_newline level' (0x7d :: rest)) (by omega)
    simp only [memberChars, List.append_nil, List.tail_cons]
    rw [utf8_member, members?, skipSpaces_newline, skipSpaces_cons (b := 0x22) rfl]
    simp only [text?_quote, skipSpaces_cons (b := 0x3a) rfl, value?_blank, hvalue, skipSpaces_newline,
      skipSpaces_cons (b := 0x7d) rfl]
    rfl
  | cons m' ms ih =>
    have hcount : (memberChars level mark (m :: m' :: ms)).length = (newline level).length + (quote m.1).length +
        ((chars level m.2).length + (memberChars level ',' (m' :: ms)).length + 1 + 1) + 1 := by
      rw [memberChars, List.length_cons, List.length_append, List.length_append, List.length_cons, List.length_cons,
        List.length_append]
    obtain ⟨budget, rfl⟩ := Nat.exists_eq_add_one_of_ne_zero (show budget ≠ 0 by omega)
    -- behind the value stand a comma and the other members
    have hmembers := ih (fun p hp => h p (List.mem_cons_of_mem m hp)) budget ',' (by omega)
    have hcomma : utf8 (memberChars level ',' (m' :: ms)) = 0x2c :: utf8 (memberChars level ',' (m' :: ms)).tail := rfl
    have hvalue := fun rest => h m List.mem_cons_self level budget _ (endsNumber_comma rest) (by omega)
    rw [memberChars, List.tail_cons, utf8_member, utf8_append, List.append_assoc, hcomma, members?, skipSpaces_newline,
      skipSpaces_cons (b := 0x22) rfl]
    simp only [text?_quote, skipSpaces_cons (b := 0x3a) rfl, value?_blank, List.cons_append, hvalue,
      skipSpaces_cons (b := 0x2c) rfl, hmembers, Option.map_some]
    rfl

/-- a reader of members that takes each name as it is takes all of them -/
theorem mapM_named {g : Option String × Json → Option (String × Json)}
    (hg : ∀ p : String × Json, g (some p.1, p.2) = some p) (ms : List (String × Json)) :
    (ms.map fun p => (some p.1, p.2)).mapM g = some ms := by
  induction ms with
  | nil => rfl
  | cons p ms ih => simp [hg, ih]

/-- members with readable names make an object -/
theorem ofMembers_some (ms : List (String × Json)) : ofMembers (ms.map fun p => (some p.1, p.2)) = .obj ms := by
  rw [ofMembers, mapM_named fun _ => rfl]

/-- an object that has members -/
theorem value?_members {budget : Nat} {bs rest : List UInt8} {ms : List (String × Json)}
    (h : members? budget bs = some (ms.map fun p => (some p.1, p.2), rest)) :
    value? (budget + 1) (0x7b :: bs) = some (.obj ms, rest) := by
  simp only [value?, skipSpaces_cons (b := 0x7b) rfl]
  split
  · rename_i hbrace
    exact absurd hbrace (skipSpaces_ne_brace h)
  · rw [members?_skipSpaces, h, Option.map_some, ofMembers_some]

/-! ## All values -/

theorem Reads.null : Reads .null := fun _ budget rest _ hbudget => by
  obtain ⟨budget, rfl⟩ := Nat.exists_eq_add_of_le' hbudget
  rfl

theorem Reads.bool (b : Bool) : Reads (.bool b) := fun level budget rest _ hbudget => by
  obtain ⟨budget, rfl⟩ := Nat.exists_eq_add_of_le' hbudget
  cases b <;> rfl

theorem Reads.int (i : Int) : Reads (.int i) := fun level budget rest hends hbudget => by
  have hpos : 0 < (chars level (.int i)).length := by
    rw [chars]
    cases i with
    | ofNat n => exact Nat.length_toDigits_pos
    | negSucc n => exact Nat.succ_pos _
  obtain ⟨budget, rfl⟩ := Nat.exists_eq_add_one_of_ne_zero (show budget ≠ 0 by omega)
  rw [chars, value?_integer]
  exact number?_integer i hends

theorem Reads.str (s : String) : Reads (.str s) := fun level budget rest _ hbudget => by
  obtain ⟨budget, rfl⟩ := Nat.exists_eq_add_one_of_ne_zero (show budget ≠ 0 by
    rintro rfl
    cases hbudget)
  rw [chars]
  exact value?_quote budget s rest

theorem Reads.arr {js : List Json} (h : ∀ j ∈ js, Reads j) : Reads (.arr js) := fun level budget rest _ hbudget => by
  cases js with
  | nil =>
    obtain ⟨budget, rfl⟩ := Nat.exists_eq_add_of_le' hbudget
    rfl
  | cons j js =>
    have hlength : (chars level (.arr (j :: js))).length =
        (itemChars (level + 1) '[' (j :: js)).length + (newline level).length + 1 := by
      rw [chars, List.length_append, List.length_append]
      rfl
    have hchars : utf8 (chars level (.arr (j :: js))) ++ rest =
        0x5b :: (utf8 (itemChars (level + 1) '[' (j :: js)).tail ++ (utf8 (newline level) ++ 0x5d :: rest)) := by
      rw [chars, utf8_append, utf8_append, List.append_assoc, List.append_assoc]
      rfl
    obtain ⟨budget, rfl⟩ := Nat.exists_eq_add_one_of_ne_zero (show budget ≠ 0 by omega)
    have hitems := items?_items h (level + 1) level budget '[' rest (by omega)
    rw [hchars]
    exact value?_items hitems

theorem Reads.obj {ms : List (String × Json)} (h : ∀ m ∈ ms, Reads m.2) : Reads (.obj ms) :=
    fun level budget rest _ hbudget => by
  cases ms with
  | nil =>
    obtain ⟨budget, rfl⟩ := Nat.exists_eq_add_of_le' hbudget
    rfl
  | cons m ms =>
    have hlength : (chars level (.obj (m :: ms))).length =
        (memberChars (level + 1) '\x7b' (m :: ms)).length + (newline level).length + 1 := by
      rw [chars, List.length_append, List.length_append]
      rfl
    have hchars : utf8 (chars level (.obj (m :: ms))) ++ rest =
        0x7b :: (utf8 (memberChars (level + 1) '\x7b' (m :: ms)).tail ++ (utf8 (newline level) ++ 0x7d :: rest)) := by
      rw [chars, utf8_append, utf8_append, List.append_assoc, List.append_assoc]
      rfl
    obtain ⟨budget, rfl⟩ := Nat.exists_eq_add_one_of_ne_zero (show budget ≠ 0 by omega)
    have hmembers := members?_members h (level + 1) level budget '\x7b' rest (by omega)
    rw [hchars]
    exact value?_members hmembers

/-- **Written values are read back**, whatever follows them. -/
theorem Solid.reads {j : Json} (h : Solid j) : Reads j := by
  induction h with
  | null => exact Reads.null
  | bool b => exact Reads.bool b
  | int i => exact Reads.int i
  | str s => exact Reads.str s
  | arr _ ih => exact Reads.arr ih
  | obj _ ih => exact Reads.obj ih

/-- a text that holds a written value and blanks behind it is read as this value -/
theorem parse_chars {j : Json} (h : Solid j) (blanks : List UInt8) (hblanks : ∀ b ∈ blanks, isSpace b = true) :
    parse (utf8 (chars 0 j) ++ blanks) = some j := by
  have hends : EndsNumber blanks := by
    cases blanks with
    | nil => rintro _ ⟨⟩
    | cons b blanks => exact endsNumber_of_isSpace (hblanks b List.mem_cons_self) blanks
  have hbudget : (chars 0 j).length ≤ 2 * (utf8 (chars 0 j) ++ blanks).length + 2 := by
    have hlength := length_le_utf8 (chars 0 j)
    rw [List.length_append]
    omega
  have hrest : skipSpaces blanks = [] := List.dropWhile_eq_nil_iff.2 hblanks
  rw [parse, h.reads 0 _ blanks hends hbudget]
  simp only [hrest, List.isEmpty_nil, if_true]

theorem parseText_pretty {j : Json} (h : Solid j) : parseText j.pretty = some j := by
  have hread := parse_chars h [] (by simp)
  rw [parseText, toList_toUTF8, pretty, String.toList_ofList]
  rwa [List.append_nil] at hread

end FlightStore.Json
