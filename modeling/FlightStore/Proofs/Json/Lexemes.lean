/-
Written text and numbers are read back.

The reader works on bytes, the writer on characters. `utf8` are the bytes of characters; a character inside quotes is
written as itself or as an escape, and either way read back as its bytes (`content?_escape`), so that quoted text gives
the text again (`text?_quote`). A whole number is written without leading zeros, so the number grammar takes all of it
and its value is the number (`number?_integer`).
-/
import Mathlib.Tactic
import FlightStore.Json.Parser
import FlightStore.Json.Printer

namespace FlightStore.Json

/-! ## Bytes of characters -/

/-- the bytes of characters -/
def utf8 (cs : List Char) : List UInt8 := cs.flatMap String.utf8EncodeChar

@[simp] theorem utf8_nil : utf8 [] = [] := rfl

@[simp] theorem utf8_cons (c : Char) (cs : List Char) : utf8 (c :: cs) = String.utf8EncodeChar c ++ utf8 cs := rfl

@[simp] theorem utf8_append (cs ds : List Char) : utf8 (cs ++ ds) = utf8 cs ++ utf8 ds := List.flatMap_append

/-- a character of ASCII is one byte -/
theorem utf8EncodeChar_of_lt {c : Char} (h : c.toNat < 128) : String.utf8EncodeChar c = [UInt8.ofNat c.toNat] := by
  have hle : c.val.toNat ≤ 127 := Nat.le_of_lt_succ h
  simp only [String.utf8EncodeChar, hle, if_true]
  rfl

/-- all other characters are bytes outside ASCII -/
theorem le_of_mem_utf8EncodeChar {c : Char} (h : 128 ≤ c.toNat) {b : UInt8} (hb : b ∈ String.utf8EncodeChar c) :
    128 ≤ b.toNat := by
  have hlt : ¬ c.val.toNat ≤ 127 := Nat.not_le.2 h
  simp only [String.utf8EncodeChar, hlt, if_false] at hb
  split_ifs at hb <;> simp only [List.mem_cons, List.not_mem_nil, or_false] at hb
  · rcases hb with rfl | rfl <;> simp only [UInt8.toNat_ofNat'] <;> omega
  · rcases hb with rfl | rfl | rfl <;> simp only [UInt8.toNat_ofNat'] <;> omega
  · rcases hb with rfl | rfl | rfl | rfl <;> simp only [UInt8.toNat_ofNat'] <;> omega

theorem length_le_utf8 (cs : List Char) : cs.length ≤ (utf8 cs).length := by
  induction cs with
  | nil => exact Nat.le_refl 0
  | cons c cs ih =>
    have hpos : 0 < (String.utf8EncodeChar c).length := List.length_pos_of_ne_nil String.utf8EncodeChar_ne_nil
    rw [utf8_cons, List.length_append, List.length_cons]
    omega

theorem toList_loop (bytes : ByteArray) (i : Nat) (r : List UInt8) :
    ByteArray.toList.loop bytes i r = r.reverse ++ bytes.data.toList.drop i := by
  fun_induction ByteArray.toList.loop bytes i r with
  | case1 i r h ih =>
    have hlt : i < bytes.data.toList.length := h
    have hget : bytes.get! i = bytes.data.toList[i] := getElem!_pos bytes.data i h
    rw [ih, List.reverse_cons, List.append_assoc, List.singleton_append, List.drop_eq_getElem_cons hlt, hget]
  | case2 i r h =>
    have hge : bytes.data.toList.length ≤ i := Nat.not_lt.1 h
    rw [List.drop_eq_nil_of_le hge, List.append_nil]

/-- the bytes of a text are those of its characters -/
theorem toList_toUTF8 (s : String) : s.toUTF8.toList = utf8 s.toList := by
  have hbytes : s.toUTF8 = (utf8 s.toList).toByteArray := String.utf8Encode_toList.symm
  rw [hbytes, ByteArray.toList, toList_loop, List.toList_data_toByteArray]
  rfl

/-- the bytes of characters are read as these characters -/
theorem utf8?_utf8 (s : String) : utf8? (utf8 s.toList) = some s := by
  have hbytes : ByteArray.mk (utf8 s.toList).toArray = s.toUTF8 :=
    (ByteArray.ext List.data_toByteArray.symm).trans String.utf8Encode_toList
  rw [utf8?, hbytes]
  exact dif_pos s.isValidUTF8

/-! ## Quoted text -/

/-- bytes that stand for themselves between quotes -/
def IsPlain (b : UInt8) : Prop := 0x20 ≤ b ∧ b ≠ 0x22 ∧ b ≠ 0x5c

theorem prepend_append (as bs : List UInt8) (scanned : Option (List UInt8) × List UInt8) :
    prepend as (prepend bs scanned) = prepend (as ++ bs) scanned := by
  obtain ⟨content, rest⟩ := scanned
  cases content <;> simp [prepend]

theorem prepend_nil (scanned : Option (List UInt8) × List UInt8) : prepend [] scanned = scanned := by
  obtain ⟨content, rest⟩ := scanned
  cases content <;> simp [prepend]

theorem content?_cons {b : UInt8} (h : IsPlain b) (rest : List UInt8) :
    content? (b :: rest) = (content? rest).map (prepend [b]) := by
  obtain ⟨hlo, hquote, hslash⟩ := h
  rw [content?, if_neg (UInt8.not_lt.2 hlo)]
  · exact hquote
  · exact fun _ _ _ _ _ hb => absurd hb hslash
  · exact fun _ _ hb => absurd hb hslash

theorem content?_plain {bytes : List UInt8} (h : ∀ b ∈ bytes, IsPlain b) (rest : List UInt8) :
    content? (bytes ++ rest) = (content? rest).map (prepend bytes) := by
  induction bytes with
  | nil => simp [funext prepend_nil]
  | cons b bytes ih =>
    rw [List.cons_append, content?_cons (h b List.mem_cons_self), ih fun b' hb' => h b' (List.mem_cons_of_mem b hb'),
      Option.map_map]
    exact congrArg (Option.map · _) (funext (prepend_append [b] bytes))

theorem content?_short {e b : UInt8} (h : shortEscape? e = some b) (rest : List UInt8) :
    content? (0x5c :: e :: rest) = (content? rest).map (prepend [b]) := by
  rw [content?, h]
  rintro _ _ _ _ _ rfl
  simp [shortEscape?] at h

/-- the byte of a digit of base sixteen -/
def hexDigitByte (n : Nat) : UInt8 := UInt8.ofNat n.digitChar.toNat

/-- a control character has two digits of base sixteen, after two zeros -/
theorem unicodeEscape_digits : ∀ n < 0x20,
    utf8 (unicodeEscape (Char.ofNat n)) = [0x5c, 0x75, 0x30, 0x30, hexDigitByte (n / 16), hexDigitByte (n % 16)] ∧
      hex4? 0x30 0x30 (hexDigitByte (n / 16)) (hexDigitByte (n % 16)) = some n := by
  decide

theorem content?_control {c : Char} (h : c.toNat < 0x20) (rest : List UInt8) :
    content? (utf8 (unicodeEscape c) ++ rest) = (content? rest).map (prepend (String.utf8EncodeChar c)) := by
  obtain ⟨hutf8, hvalue⟩ := unicodeEscape_digits c.toNat h
  rw [Char.ofNat_toNat] at hutf8
  have hhigh : isHighSurrogate c.toNat = false := by
    simp only [isHighSurrogate, Bool.and_eq_false_iff, decide_eq_false_iff_not]
    omega
  have hlow : isLowSurrogate c.toNat = false := by
    simp only [isLowSurrogate, Bool.and_eq_false_iff, decide_eq_false_iff_not]
    omega
  rw [hutf8]
  simp only [List.cons_append, List.nil_append]
  rw [content?, hvalue]
  simp [hhigh, hlow]

/-- a character that is written as itself -/
theorem isPlain_of_mem_utf8EncodeChar {c : Char} (hlo : 0x20 ≤ c.toNat) (hquote : c ≠ '"') (hslash : c ≠ '\\') {b : UInt8}
    (hb : b ∈ String.utf8EncodeChar c) : IsPlain b := by
  have hne : ∀ {d : Char}, c ≠ d → c.toNat ≠ d.toNat := fun hne he => hne (Char.toNat_inj.1 he)
  have hquote : c.toNat ≠ 0x22 := hne hquote
  have hslash : c.toNat ≠ 0x5c := hne hslash
  have hb : b.toNat = c.toNat ∨ 128 ≤ b.toNat := by
    by_cases hc : c.toNat < 128
    · rw [utf8EncodeChar_of_lt hc, List.mem_singleton] at hb
      rw [hb, UInt8.toNat_ofNat']
      omega
    · exact Or.inr (le_of_mem_utf8EncodeChar (Nat.not_lt.1 hc) hb)
  refine ⟨UInt8.le_iff_toNat_le.2 ?_, fun he => ?_, fun he => ?_⟩
  · show 0x20 ≤ b.toNat
    omega
  · subst he
    simp only [UInt8.reduceToNat] at hb
    omega
  · subst he
    simp only [UInt8.reduceToNat] at hb
    omega

/-- a character is written so that its bytes are read -/
theorem content?_escape (c : Char) (rest : List UInt8) :
    content? (utf8 (escape c) ++ rest) = (content? rest).map (prepend (String.utf8EncodeChar c)) := by
  unfold escape
  split_ifs with h1 h2 h3 h4 h5 h6 h7 h8
  · subst h1; exact content?_short (by decide) rest
  · subst h2; exact content?_short (by decide) rest
  · subst h3; exact content?_short (by decide) rest
  · subst h4; exact content?_short (by decide) rest
  · subst h5; exact content?_short (by decide) rest
  · subst h6; exact content?_short (by decide) rest
  · subst h7; exact content?_short (by decide) rest
  · exact content?_control h8 rest
  · rw [utf8_cons, utf8_nil, List.append_nil]
    exact content?_plain (fun b hb => isPlain_of_mem_utf8EncodeChar (Nat.not_lt.1 h8) h1 h2 hb) rest

/-- **Quoted text is read back.** -/
theorem text?_quote (s : String) (rest : List UInt8) :
    text? (utf8 (s.toList.flatMap escape) ++ 0x22 :: rest) = some (some s, rest) := by
  have hcontent : ∀ cs : List Char, content? (utf8 (cs.flatMap escape) ++ 0x22 :: rest) = some (some (utf8 cs), rest) := by
    intro cs
    induction cs with
    | nil => rfl
    | cons c cs ih =>
      rw [List.flatMap_cons, utf8_append, List.append_assoc, content?_escape, ih]
      rfl
  rw [text?, hcontent]
  simp [utf8?_utf8]

/-! ## Whole numbers -/

/-- nothing that could belong to a number in front -/
def EndsNumber (rest : List UInt8) : Prop := ∀ b ∈ rest.head?, isDigit b = false ∧ b ≠ 0x2e ∧ b ≠ 0x65 ∧ b ≠ 0x45

theorem mem_decimal {n : Nat} {c : Char} (h : c ∈ Text.decimal n) : c.isDigit = true :=
  Nat.isDigit_of_mem_toDigits (by decide) (by decide) h

theorem toNat_of_isDigit {c : Char} (h : c.isDigit = true) : 0x30 ≤ c.toNat ∧ c.toNat ≤ 0x39 := by
  simp only [Char.isDigit, ge_iff_le, Bool.and_eq_true, decide_eq_true_eq, UInt32.le_iff_toNat_le] at h
  exact h

/-- digits are written as one byte each -/
theorem utf8_digits {cs : List Char} (h : ∀ c ∈ cs, c.isDigit = true) : utf8 cs = cs.map fun c => UInt8.ofNat c.toNat := by
  induction cs with
  | nil => rfl
  | cons c cs ih =>
    have hlt : c.toNat < 128 := Nat.lt_of_le_of_lt (toNat_of_isDigit (h c List.mem_cons_self)).2 (by decide)
    rw [utf8_cons, utf8EncodeChar_of_lt hlt, ih fun d hd => h d (List.mem_cons_of_mem c hd)]
    rfl

theorem utf8_decimal (n : Nat) : utf8 (Text.decimal n) = (Text.decimal n).map fun c => UInt8.ofNat c.toNat :=
  utf8_digits fun _ hc => mem_decimal hc

theorem isDigit_ofNat {c : Char} (h : c.isDigit = true) :
    isDigit (UInt8.ofNat c.toNat) = true ∧ (UInt8.ofNat c.toNat).toNat = c.toNat := by
  obtain ⟨hlo, hhi⟩ := toNat_of_isDigit h
  have hvalue : (UInt8.ofNat c.toNat).toNat = c.toNat := by
    rw [UInt8.toNat_ofNat']
    omega
  refine ⟨?_, hvalue⟩
  simp only [isDigit, Bool.and_eq_true, decide_eq_true_eq, UInt8.le_iff_toNat_le, hvalue]
  exact ⟨hlo, hhi⟩

theorem isDigit_of_mem_decimal {n : Nat} {b : UInt8} (h : b ∈ utf8 (Text.decimal n)) : isDigit b = true := by
  rw [utf8_decimal, List.mem_map] at h
  obtain ⟨c, hc, rfl⟩ := h
  exact (isDigit_ofNat (mem_decimal hc)).1

/-- a number is written with at least one digit -/
theorem exists_utf8_decimal (n : Nat) : ∃ b bs, utf8 (Text.decimal n) = b :: bs ∧ isDigit b = true := by
  have hdigits : Text.decimal n ≠ [] := Nat.toDigits_ne_nil
  cases hbytes : utf8 (Text.decimal n) with
  | nil =>
    rw [utf8_decimal, List.map_eq_nil_iff] at hbytes
    exact absurd hbytes hdigits
  | cons b bs =>
    refine ⟨b, bs, rfl, isDigit_of_mem_decimal (n := n) ?_⟩
    rw [hbytes]
    exact List.mem_cons_self

theorem digitsValue_decimal (n : Nat) : digitsValue (utf8 (Text.decimal n)) = n := by
  -- digit by digit the fold takes the steps of the library's, on the value read so far
  have hfold : ∀ (cs : List Char) (acc : Nat), (∀ c ∈ cs, c.isDigit = true) →
      (cs.map fun c => UInt8.ofNat c.toNat).foldl (fun n d => n * 10 + (d.toNat - 0x30)) acc =
        Nat.ofDigitChars 10 cs acc := by
    intro cs
    induction cs with
    | nil => intro acc _; rfl
    | cons c cs ih =>
      intro acc hcs
      have hc := (isDigit_ofNat (hcs c List.mem_cons_self)).2
      rw [List.map_cons, List.foldl_cons, hc, ih _ fun d hd => hcs d (List.mem_cons_of_mem c hd), Nat.mul_comm acc]
      rfl
  rw [utf8_decimal, digitsValue, hfold _ 0 fun c hc => mem_decimal hc]
  exact Nat.ofDigitChars_toDigits (by decide) (by decide)

/-- a number is written without a leading zero -/
theorem decimal_ne_zero_cons {n : Nat} (hn : 0 < n) (ds : List Char) : Text.decimal n ≠ '0' :: ds := by
  induction n using Nat.strong_induction_on generalizing ds with
  | _ n ih =>
    unfold Text.decimal at *
    by_cases hlt : n < 10
    · rw [Nat.toDigits_of_lt_base hlt]
      interval_cases n <;> simp [Nat.digitChar]
    · rw [Nat.toDigits_of_base_le (by decide) (Nat.not_lt.1 hlt)]
      cases hfront : Nat.toDigits 10 (n / 10) with
      | nil => exact absurd hfront Nat.toDigits_ne_nil
      | cons d front =>
        intro heq
        rw [List.cons_append, List.cons.injEq] at heq
        refine ih (n / 10) (by omega) (by omega) front ?_
        rw [hfront, heq.1]

theorem spanDigits_decimal (n : Nat) {rest : List UInt8} (hrest : EndsNumber rest) :
    spanDigits (utf8 (Text.decimal n) ++ rest) = (utf8 (Text.decimal n), rest) := by
  have hdigits : ∀ b ∈ utf8 (Text.decimal n), isDigit b = true := fun b hb => isDigit_of_mem_decimal hb
  have hstop : rest.takeWhile isDigit = [] ∧ rest.dropWhile isDigit = rest := by
    cases rest with
    | nil => exact ⟨rfl, rfl⟩
    | cons b rest =>
      have hb : ¬ isDigit b = true := Bool.eq_false_iff.1 (hrest b rfl).1
      exact ⟨List.takeWhile_cons_of_neg hb, List.dropWhile_cons_of_neg hb⟩
  rw [spanDigits, List.takeWhile_append_of_pos hdigits, List.dropWhile_append_of_pos hdigits, hstop.1, hstop.2,
    List.append_nil]

/-- the digits of a number are all that the number grammar takes -/
theorem natural?_decimal (n : Nat) {rest : List UInt8} (hrest : EndsNumber rest) :
    natural? (utf8 (Text.decimal n) ++ rest) = some (utf8 (Text.decimal n), rest) := by
  rw [natural?, spanDigits_decimal n hrest]
  split
  · rename_i rest' heq
    obtain ⟨b, bs, hbytes, -⟩ := exists_utf8_decimal n
    rw [(Prod.mk.inj heq).1] at hbytes
    cases hbytes
  · rename_i b ds rest' heq
    -- digits after a zero in front: the number is not zero, and its first digit is
    have hbytes : (Text.decimal n).map (fun c => UInt8.ofNat c.toNat) = 0x30 :: b :: ds := by
      rw [← utf8_decimal, (Prod.mk.inj heq).1]
    cases hdecimal : Text.decimal n with
    | nil =>
      rw [hdecimal] at hbytes
      cases hbytes
    | cons c cs =>
      rw [hdecimal, List.map_cons, List.cons.injEq] at hbytes
      have hc : c = '0' := by
        have hvalue := (isDigit_ofNat (mem_decimal (hdecimal ▸ List.mem_cons_self))).2
        rw [hbytes.1] at hvalue
        exact Char.toNat_inj.1 hvalue.symm
      subst hc
      rcases Nat.eq_zero_or_pos n with rfl | hn
      · cases hdecimal
        cases hbytes.2
      · exact absurd hdecimal (decimal_ne_zero_cons hn cs)
  · rename_i ds rest' _ _ heq
    rw [heq]

theorem fraction?_of_ends {rest : List UInt8} (h : EndsNumber rest) : fraction? rest = some ([], rest) := by
  cases rest with
  | nil => rfl
  | cons b rest =>
    have hb := h b rfl
    rw [fraction?]
    intro _ heq
    exact hb.2.1 (List.cons.inj heq).1

theorem exponent?_of_ends {rest : List UInt8} (h : EndsNumber rest) : exponent? rest = some ([], rest) := by
  cases rest with
  | nil => rfl
  | cons b rest =>
    have hb := h b rfl
    rw [exponent?]
    · intro _ heq
      exact hb.2.2.1 (List.cons.inj heq).1
    · intro _ heq
      exact hb.2.2.2 (List.cons.inj heq).1

theorem unsigned?_decimal (negative : Bool) {n : Nat} (hn : negative = true → 0 < n) {rest : List UInt8}
    (hrest : EndsNumber rest) :
    unsigned? negative (utf8 (Text.decimal n) ++ rest) = some (.int (if negative then -n else n), rest) := by
  have hzero : (negative && utf8 (Text.decimal n) == [0x30]) = false := by
    rw [Bool.and_eq_false_iff]
    by_contra hzero
    simp only [not_or, Bool.not_eq_false, beq_iff_eq] at hzero
    have hvalue := digitsValue_decimal n
    rw [hzero.2] at hvalue
    exact absurd (hn hzero.1) (by rw [← hvalue]; decide)
  simp only [unsigned?, natural?_decimal n hrest, fraction?_of_ends hrest, exponent?_of_ends hrest, hzero,
    digitsValue_decimal, Option.bind_eq_bind, Option.bind_some, List.isEmpty_nil, Bool.and_self, Bool.not_false, if_true]
  rfl

theorem number?_of_isDigit {b : UInt8} (h : isDigit b = true) (bs : List UInt8) :
    number? (b :: bs) = unsigned? false (b :: bs) := by
  rw [number?]
  intro _ heq
  rw [(List.cons.inj heq).1] at h
  exact absurd h (by decide)

/-- **A whole number is read back.** -/
theorem number?_integer (i : Int) {rest : List UInt8} (hrest : EndsNumber rest) :
    number? (utf8 (integer i) ++ rest) = some (.int i, rest) := by
  cases i with
  | ofNat n =>
    have hread := unsigned?_decimal false (n := n) (fun h => absurd h Bool.false_ne_true) hrest
    obtain ⟨b, bs, hbytes, hdigit⟩ := exists_utf8_decimal n
    rw [hbytes] at hread
    show number? (utf8 (Text.decimal n) ++ rest) = _
    rw [hbytes, List.cons_append, number?_of_isDigit hdigit]
    exact hread
  | negSucc n =>
    have hread := unsigned?_decimal true (n := n + 1) (fun _ => Nat.succ_pos n) hrest
    exact hread

end FlightStore.Json
