/-
The text of a set of flags is read back.

A kind of flag has a text form if its names can be told apart and hold neither blanks nor bars nor a zero in front. The
written parts are then words, so a text splits back into the parts it was joined from (`splitOn_intercalate`): one for
each declared flag and one for the mask of all other bits. Declared flags and other bits make up the set
(`ofList_flags_union_undeclared`), so nothing is lost, not even bits of flags that nobody has declared
(`ofText?_toText`).
-/
import FlightStore.FlagSet.Text
import FlightStore.Proofs.FlagSets

namespace FlightStore

open Text

/-- the names of a choice can be told apart -/
class NamedChoice (α : Type) [Choice α] : Prop where
  ofName?_name : ∀ a : α, Choice.ofName? (Choice.name a) = some a

/-- text without blanks and bars -/
structure IsWord (cs : List Char) : Prop where
  ne_nil : cs ≠ []
  plain : ∀ c ∈ cs, isBlank c = false ∧ c ≠ '|'

theorem isWord_of_all {cs : List Char} (h : (!cs.isEmpty && cs.all fun c => !isBlank c && c != '|') = true) : IsWord cs := by
  simp only [Bool.and_eq_true, Bool.not_eq_true', List.all_eq_true, bne_iff_ne, List.isEmpty_eq_false_iff] at h
  exact ⟨h.1, h.2⟩

/-- the names of a kind of flag can be told apart, and are words that cannot be masks -/
class NamedFlag (F : Type) [Flag F] : Prop extends LawfulFlag F, NamedChoice F where
  isWord : ∀ f : F, IsWord (Choice.name f).toList
  head?_ne : ∀ f : F, (Choice.name f).toList.head? ≠ some '0'

/-! ## Masks -/

theorem hexDigit?_digitChar : ∀ d < 16, hexDigit? d.digitChar = some d := by decide

theorem positional?_append (digit? : Char → Option Nat) (b : Nat) (cs ds : List Char) (acc : Nat) :
    positional? digit? b acc (cs ++ ds) = (positional? digit? b acc cs).bind fun acc => positional? digit? b acc ds := by
  induction cs generalizing acc with
  | nil => rfl
  | cons c cs ih =>
    rw [List.cons_append, positional?, positional?]
    cases digit? c with
    | none => rfl
    | some d => exact ih (acc * b + d)

theorem positional?_hex (n : Nat) : positional? hexDigit? 16 0 (hex n) = some n := by
  induction n using Nat.strong_induction_on with
  | _ n ih =>
    unfold hex at *
    by_cases hlt : n < 16
    · rw [Nat.toDigits_of_lt_base hlt, positional?, hexDigit?_digitChar n hlt]
      exact congrArg some (Nat.zero_add n)
    · have hfront := ih (n / 16) (by omega)
      rw [Nat.toDigits_of_base_le (by decide) (Nat.not_lt.1 hlt), positional?_append, hfront, Option.bind_some, positional?,
        hexDigit?_digitChar _ (Nat.mod_lt n (by decide))]
      exact congrArg some (Nat.div_add_mod' n 16)

/-- a mask is written in digits -/
theorem mem_hex {n : Nat} {c : Char} (h : c ∈ hex n) : ∃ d < 16, c = d.digitChar := by
  induction n using Nat.strong_induction_on with
  | _ n ih =>
    unfold hex at *
    by_cases hlt : n < 16
    · rw [Nat.toDigits_of_lt_base hlt, List.mem_singleton] at h
      exact ⟨n, hlt, h⟩
    · rw [Nat.toDigits_of_base_le (by decide) (Nat.not_lt.1 hlt), List.mem_append, List.mem_singleton] at h
      rcases h with h | h
      · exact ih (n / 16) (by omega) h
      · exact ⟨n % 16, Nat.mod_lt n (by decide), h⟩

/-- **A mask is read back.** -/
theorem hexValue?_hex (n : Nat) : hexValue? (afterPlus (hex n)) = some n := by
  have hread := positional?_hex n
  cases hdigits : hex n with
  | nil => exact absurd hdigits Nat.toDigits_ne_nil
  | cons c cs =>
    obtain ⟨d, hd, rfl⟩ := mem_hex (n := n) (c := c) (by rw [hdigits]; exact List.mem_cons_self)
    have hplus : ∀ d < 16, d.digitChar ≠ '+' := by decide
    rw [afterPlus]
    · rw [hdigits] at hread
      exact hread
    · intro _ heq
      exact hplus d hd (List.cons.inj heq).1

theorem isWord_mask (n : Nat) : IsWord ('0' :: 'x' :: hex n) := by
  have hdigits : ∀ d < 16, isBlank d.digitChar = false ∧ d.digitChar ≠ '|' := by decide
  refine ⟨List.cons_ne_nil _ _, fun c hc => ?_⟩
  rcases List.mem_cons.1 hc with rfl | hc
  · decide
  rcases List.mem_cons.1 hc with rfl | hc
  · decide
  obtain ⟨d, hd, rfl⟩ := mem_hex hc
  exact hdigits d hd

/-! ## Words -/

theorem dropWhile_blank (lead word : List Char) (hlead : ∀ c ∈ lead, isBlank c = true) (hword : word ≠ [])
    (hplain : ∀ c ∈ word, isBlank c = false) (cs : List Char) : (lead ++ word ++ cs).dropWhile isBlank = word ++ cs := by
  obtain ⟨c, word, rfl⟩ := List.exists_cons_of_ne_nil hword
  rw [List.append_assoc, List.dropWhile_append_of_pos hlead]
  exact List.dropWhile_cons_of_neg (Bool.eq_false_iff.1 (hplain c List.mem_cons_self))

/-- a word stays when the blanks around it go -/
theorem trim_word {word : List Char} (hword : IsWord word) (lead tail : List Char)
    (hlead : ∀ c ∈ lead, isBlank c = true) (htail : ∀ c ∈ tail, isBlank c = true) : trim (lead ++ word ++ tail) = word := by
  have hplain : ∀ c ∈ word, isBlank c = false := fun c hc => (hword.plain c hc).1
  have hend := dropWhile_blank tail.reverse word.reverse (by simpa using htail) (by simpa using hword.ne_nil)
    (by simpa using hplain) []
  rw [trim, dropWhile_blank lead word hlead hword.ne_nil hplain, trimEnd, List.reverse_append]
  rw [List.append_nil, List.append_nil] at hend
  rw [hend, List.reverse_reverse]

theorem bar_not_mem {lead word : List Char} (hlead : ∀ c ∈ lead, isBlank c = true ∧ c ≠ '|') (hword : IsWord word) :
    '|' ∉ lead ++ word := by
  rw [List.mem_append]
  rintro (hc | hc)
  · exact (hlead _ hc).2 rfl
  · exact (hword.plain _ hc).2 rfl

/-- **A text splits back into the words it was joined from.** -/
theorem splitOn_intercalate {word : List Char} {words : List (List Char)} (h : ∀ w ∈ word :: words, IsWord w)
    (lead : List Char) (hlead : ∀ c ∈ lead, isBlank c = true ∧ c ≠ '|') :
    ((lead ++ [' ', '|', ' '].intercalate (word :: words)).splitOn '|').map trim = word :: words := by
  induction words generalizing word lead with
  | nil =>
    have hword : IsWord word := h word List.mem_cons_self
    have htrim := trim_word hword lead [] (fun c hc => (hlead c hc).1) (by simp)
    rw [List.append_nil] at htrim
    rw [List.intercalate_singleton, List.splitOn_eq_singleton (bar_not_mem hlead hword), List.map_singleton, htrim]
  | cons w words ih =>
    have hword : IsWord word := h word List.mem_cons_self
    have htrim := trim_word hword lead [' '] (fun c hc => (hlead c hc).1) (List.forall_mem_singleton.2 (by decide))
    have hbar : '|' ∉ lead ++ word ++ [' '] := by simpa using bar_not_mem hlead hword
    -- the blank behind the bar leads the next word
    have hnext := ih (fun w hw => h w (List.mem_cons_of_mem word hw)) [' ']
      (List.forall_mem_singleton.2 (by decide))
    have hsplit : lead ++ [' ', '|', ' '].intercalate (word :: w :: words) =
        (lead ++ word ++ [' ']) ++ '|' :: ([' '] ++ [' ', '|', ' '].intercalate (w :: words)) := by
      rw [List.intercalate_cons_cons]
      simp only [List.append_assoc, List.cons_append, List.nil_append]
    rw [hsplit, List.splitOn_append_cons_self_of_not_mem hbar, List.map_cons, htrim, hnext]

/-- words make no blank text -/
theorem not_blank_intercalate {word : List Char} (h : IsWord word) (words : List (List Char)) :
    ¬ ([' ', '|', ' '].intercalate (word :: words)).all isBlank = true := by
  obtain ⟨c, cs, rfl⟩ := List.exists_cons_of_ne_nil h.ne_nil
  have hc := (h.plain c List.mem_cons_self).1
  intro hall
  refine absurd (List.all_eq_true.1 hall c ?_) (Bool.eq_false_iff.1 hc)
  cases words with
  | nil => simp
  | cons w words => simp [List.intercalate_cons_cons]

/-! ## Sets -/

namespace FlagSet

variable {F : Type} [Flag F]

theorem ofNat_toNat (s : FlagSet F) : ofNat s.toNat = s :=
  ext ((BitVec.ofNat_toNat _ s.bits).trans (BitVec.setWidth_eq s.bits))

theorem toNat_le_full (s : FlagSet F) : s.toNat ≤ (full : FlagSet F).toNat := by
  have hfull : (full : FlagSet F).toNat = 2 ^ Flag.width F - 1 := BitVec.toNat_allOnes
  rw [hfull]
  exact Nat.le_sub_one_of_lt s.bits.isLt

theorem ofPart?_mask (s : FlagSet F) : ofPart? ('0' :: 'x' :: hex s.toNat) = some s := by
  rw [ofPart?, ofMask?, hexValue?_hex]
  simp only [toNat_le_full, if_true, ofNat_toNat]

/-- parts are read without the blanks around them -/
theorem ofParts?_eq (ps : List (List Char)) :
    (ofParts? ps : Option (FlagSet F)) = (ps.map trim).foldlM (fun s part => (ofPart? part).map (s ∪ ·)) empty := by
  rw [List.foldlM_map]
  rfl

@[simp] theorem union_empty (s : FlagSet F) : s ∪ empty = s := ext_bits fun i => by simp

variable [NamedFlag F]

theorem mem_flags {s : FlagSet F} {f : F} : f ∈ s.flags ↔ f ∈ s := by
  have hall : f ∈ (Choice.all : List F) := List.mem_of_find?_eq_some (LawfulFlag.find_bit f)
  rw [flags, List.mem_filter, decide_eq_true_iff]
  exact and_iff_right hall

/-- the declared flags of a set and its other bits make up the set -/
theorem ofList_flags_union_undeclared (s : FlagSet F) : ofList s.flags ∪ s.undeclared = s := by
  refine ext_bits fun i => ?_
  rw [getLsbD_union, Bool.eq_iff_iff, Bool.or_eq_true, getLsbD_ofList, undeclared, getLsbD_sdiff, Bool.and_eq_true,
    Bool.not_eq_true']
  constructor
  · rintro (⟨f, hf, rfl⟩ | ⟨hs, -⟩)
    · exact mem_flags.1 hf
    · exact hs
  · intro hs
    cases hdeclared : (declared : FlagSet F).bits.getLsbD i with
    | false => exact Or.inr ⟨hs, rfl⟩
    | true =>
      obtain ⟨f, -, rfl⟩ := (getLsbD_ofList Choice.all i).1 hdeclared
      exact Or.inl ⟨f, mem_flags.2 hs, rfl⟩

theorem ofPart?_name (f : F) : ofPart? (Choice.name f).toList = some (only f) := by
  rw [ofPart?, String.ofList_toList, NamedChoice.ofName?_name]
  · rfl
  · intro digits heq
    have hhead := NamedFlag.head?_ne f
    rw [heq] at hhead
    exact hhead rfl

theorem isWord_of_mem_parts {s : FlagSet F} {part : List Char} (h : part ∈ s.parts) : IsWord part := by
  rw [parts, List.mem_append, List.mem_map] at h
  rcases h with ⟨f, -, rfl⟩ | h
  · exact NamedFlag.isWord f
  · split_ifs at h
    · cases h
    · rw [List.mem_singleton.1 h]
      exact isWord_mask _

/-- the parts of a set add up to it -/
theorem foldlM_parts (s : FlagSet F) :
    s.parts.foldlM (fun s part => (ofPart? part).map (s ∪ ·)) empty = some s := by
  have hnames : ∀ (fs : List F) (acc : FlagSet F), (fs.map fun f => (Choice.name f).toList).foldlM
      (fun s part => (ofPart? part).map (s ∪ ·)) acc = some (fs.foldl (fun s f => s.insert f) acc) := by
    intro fs
    induction fs with
    | nil => exact fun _ => rfl
    | cons f fs ih =>
      intro acc
      rw [List.map_cons, List.foldlM_cons, ofPart?_name]
      exact ih (acc.insert f)
  rw [parts, List.foldlM_append, hnames]
  have hset := ofList_flags_union_undeclared s
  show (if s.undeclared = empty then [] else ['0' :: 'x' :: hex s.undeclared.toNat]).foldlM _ (ofList s.flags) = some s
  split_ifs with hempty
  · rw [hempty, union_empty] at hset
    exact congrArg some hset
  · rw [List.foldlM_cons, ofPart?_mask, Option.map_some, hset]
    rfl

/-- **The text of a set of flags is read back**, bits without a declared flag included. -/
theorem ofText?_toText (s : FlagSet F) : ofText? s.toText = some s := by
  have hparts := foldlM_parts s
  rw [ofText?, toText, String.toList_ofList, ofChars?, toChars]
  cases h : s.parts with
  | nil =>
    rw [h] at hparts
    exact hparts
  | cons word words =>
    have hwords : ∀ w ∈ word :: words, IsWord w := fun w hw => isWord_of_mem_parts (s := s) (h ▸ hw)
    have hblank := not_blank_intercalate (hwords word List.mem_cons_self) words
    have hsplit := splitOn_intercalate hwords [] (by simp)
    rw [List.nil_append] at hsplit
    rw [if_neg hblank, ofParts?_eq, hsplit, ← h]
    exact hparts

example : (ofNat 0xc0000001 : FlagSet Feature).toText = "RX_PPM | 0xc0000000" := by decide

end FlagSet

/-! ## Kinds of flags -/

instance : NamedFlag Feature where
  toLawfulFlag := inferInstance
  ofName?_name f := by cases f <;> rfl
  isWord f := by cases f <;> exact isWord_of_all (by decide)
  head?_ne f := by cases f <;> decide

instance : NamedFlag SerialFunction where
  toLawfulFlag := inferInstance
  ofName?_name f := by cases f <;> rfl
  isWord f := by cases f <;> exact isWord_of_all (by decide)
  head?_ne f := by cases f <;> decide

end FlightStore
