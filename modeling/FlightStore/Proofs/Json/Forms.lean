/-
JSON forms that read what they write.

A form is lawful if every value of its type is read back from its written form, and that form is `Solid`, so that it also
survives as text. The lemmas follow the combinators. The fields of a record are known by their names: they are read back
from an object whose other members have other names, so a record is lawful if no two of its fields share a name. A value
that may be missing is written as itself, which must never be a `null`.
-/
import FlightStore.Proofs.FlagText
import FlightStore.Proofs.Json.Reading

namespace FlightStore.Json

variable {α β γ : Type}

/-- every value is read back from its written form, which is safe as text -/
structure Form.Lawful (f : Form α) : Prop where
  read_write : ∀ a, f.read (f.write a) = some a
  solid : ∀ a, Solid (f.write a)

/-- **A lawful form survives as text.** -/
theorem Form.Lawful.parseText_write {f : Form α} (h : f.Lawful) (a : α) :
    (parseText (f.write a).pretty).bind f.read = some a := by
  rw [parseText_pretty (h.solid a), Option.bind_some, h.read_write]

namespace Form

variable {f : Form β} {n : Nat}

/-! ## Values that stand for others -/

theorem Lawful.map {split : α → β} {build : β → α} (h : f.Lawful) (hback : ∀ a, build (split a) = a) :
    (f.map split build).Lawful where
  read_write a := by
    show (f.read (f.write (split a))).map build = some a
    rw [h.read_write, Option.map_some, hback]
  solid a := h.solid (split a)

/-- numbers of a range, for values that stay in it -/
theorem lawful_range_map {lo hi : Int} {split : α → Int} {build : Int → α} (hrange : ∀ a, lo ≤ split a ∧ split a ≤ hi)
    (hback : ∀ a, build (split a) = a) : ((range lo hi).map split build).Lawful where
  read_write a := by
    show (if lo ≤ split a ∧ split a ≤ hi then some (split a) else none).map build = some a
    rw [if_pos (hrange a), Option.map_some, hback]
  solid a := .int (split a)

/-! ## Numbers, texts and choices -/

theorem lawful_bool : bool.Lawful := ⟨fun _ => rfl, .bool⟩

theorem lawful_u8 : u8.Lawful :=
  lawful_range_map (fun v => ⟨Int.natCast_nonneg _, by have := v.toNat_lt; omega⟩) fun _ => UInt8.ofNat_toNat

theorem lawful_u16 : u16.Lawful :=
  lawful_range_map (fun v => ⟨Int.natCast_nonneg _, by have := v.toNat_lt; omega⟩) fun _ => UInt16.ofNat_toNat

theorem lawful_i8 : i8.Lawful :=
  lawful_range_map (fun v => ⟨v.le_toInt, by have := v.toInt_lt; omega⟩) Int8.ofInt_toInt

theorem lawful_i16 : i16.Lawful :=
  lawful_range_map (fun v => ⟨v.le_toInt, by have := v.toInt_lt; omega⟩) Int16.ofInt_toInt

theorem lawful_boundedText : (boundedText n).Lawful := ⟨BoundedString.ofString?_text, fun s => .str s.text⟩

theorem lawful_choice [Choice α] [NamedChoice α] : (choice : Form α).Lawful :=
  ⟨NamedChoice.ofName?_name, fun a => .str (Choice.name a)⟩

theorem lawful_flags {F : Type} [Flag F] [NamedFlag F] : (flags : Form (FlagSet F)).Lawful :=
  ⟨FlagSet.ofText?_toText, fun s => .str s.toText⟩

theorem lawful_mask {F : Type} [Flag F] : (mask : Form (FlagSet F)).Lawful :=
  lawful_range_map (fun s => ⟨Int.natCast_nonneg _, Int.ofNat_le.2 s.toNat_le_full⟩) FlagSet.ofNat_toNat

/-! ## Missing values, lists and arrays -/

theorem Lawful.optional (h : f.Lawful) (hnull : ∀ b, f.write b ≠ .null) : f.optional.Lawful where
  read_write o := by
    cases o with
    | none => rfl
    | some b =>
      have hread := h.read_write b
      simp only [Form.optional]
      split
      · rename_i heq
        exact absurd heq (hnull b)
      · rw [hread, Option.map_some]
  solid o := by
    cases o with
    | none => exact .null
    | some b => exact h.solid b

theorem Lawful.list (h : f.Lawful) : f.list.Lawful where
  read_write bs := by
    show (bs.map f.write).mapM f.read = some bs
    induction bs with
    | nil => rfl
    | cons b bs ih => rw [List.map_cons, List.mapM_cons, h.read_write, ih]; rfl
  solid bs := .arr fun j hj => by
    obtain ⟨b, -, rfl⟩ := List.mem_map.1 hj
    exact h.solid b

theorem Lawful.boundedList (h : f.Lawful) (n : Nat) : (f.boundedList n).Lawful where
  read_write l := by
    show (f.list.read (f.list.write l.items)).bind BoundedList.ofList? = some l
    rw [h.list.read_write, Option.bind_some, BoundedList.ofList?_items]
  solid l := h.list.solid l.items

theorem Lawful.vector (h : f.Lawful) (n : Nat) : (f.vector n).Lawful where
  read_write v := by
    show (f.list.read (f.list.write v.toList)).bind _ = some v
    rw [h.list.read_write, Option.bind_some, dif_pos v.length_toList]
    rfl
  solid v := h.list.solid v.toList

end Form

/-! ## Records -/

/-- fields with these names, which are read back from an object as far as they are told apart -/
structure Fields.Lawful (fs : Fields α) (names : List String) : Prop where
  names_write : ∀ a, (fs.write a).map Prod.fst = names
  read_write : names.Nodup → ∀ (a : α) (before : List (String × Json)), (∀ m ∈ before, m.1 ∉ names) →
    fs.readMembers (before ++ fs.write a) = some a
  solid : ∀ a, ∀ m ∈ fs.write a, Solid m.2

theorem Fields.lawful_nil : nil.Lawful [] where
  names_write _ := rfl
  read_write _ _ _ _ := rfl
  solid _ _ hm := absurd hm List.not_mem_nil

/-- a field is read from the one member with its name -/
theorem Field.read_member {f : Field β} (h : f.form.Lawful) (b : β) {before after : List (String × Json)}
    (hbefore : ∀ m ∈ before, m.1 ≠ f.name) (hafter : ∀ m ∈ after, m.1 ≠ f.name) :
    f.read (before ++ (f.name, f.form.write b) :: after) = some b := by
  have hnone : ∀ ms : List (String × Json), (∀ m ∈ ms, m.1 ≠ f.name) → ms.filter (fun m => m.1 = f.name) = [] :=
    fun ms hms => List.filter_eq_nil_iff.2 fun m hm => by simpa using hms m hm
  have hfilter : (before ++ (f.name, f.form.write b) :: after).filter (fun m => m.1 = f.name) =
      [(f.name, f.form.write b)] := by
    rw [List.filter_append, hnone before hbefore, List.filter_cons_of_pos (by simp), hnone after hafter, List.nil_append]
  rw [read, hfilter]
  exact h.read_write b

theorem Fields.Lawful.cons {f : Field β} {fs : Fields γ} {names : List String} (hf : f.form.Lawful) (hfs : fs.Lawful names) :
    (Fields.cons f fs).Lawful (f.name :: names) where
  names_write v := by
    show f.name :: (fs.write v.2).map Prod.fst = f.name :: names
    rw [hfs.names_write]
  read_write hnodup v before hbefore := by
    obtain ⟨hnew, hnodup⟩ := List.nodup_cons.1 hnodup
    have hfield : f.read (before ++ (f.name, f.form.write v.1) :: fs.write v.2) = some v.1 :=
      Field.read_member hf v.1 (fun m hm heq => hbefore m hm (heq ▸ List.mem_cons_self)) fun m hm heq => hnew (by
        rw [← hfs.names_write v.2, ← heq]
        exact List.mem_map_of_mem hm)
    -- to the other fields this one is one more member with another name
    have hothers := hfs.read_write hnodup v.2 (before ++ [(f.name, f.form.write v.1)]) fun m hm => by
      rcases List.mem_append.1 hm with hm | hm
      · exact fun hin => hbefore m hm (List.mem_cons_of_mem f.name hin)
      · rw [List.mem_singleton.1 hm]
        exact hnew
    rw [List.append_assoc, List.singleton_append] at hothers
    show (do return (← f.read (before ++ (f.name, f.form.write v.1) :: fs.write v.2),
      ← fs.readMembers (before ++ (f.name, f.form.write v.1) :: fs.write v.2)) : Option (β × γ)) = some v
    rw [hfield, hothers]
    rfl
  solid v m hm := by
    rcases List.mem_cons.1 hm with rfl | hm
    · exact hf.solid v.1
    · exact hfs.solid v.2 m hm

theorem Form.lawful_record {fs : Fields β} {names : List String} {split : α → β} {build : β → α} (h : fs.Lawful names)
    (hnodup : names.Nodup) (hback : ∀ a, build (split a) = a) : (Form.record fs split build).Lawful where
  read_write a := by
    show (fs.readMembers (fs.write (split a))).map build = some a
    have hread := h.read_write hnodup (split a) [] (by simp)
    rw [List.nil_append] at hread
    rw [hread, Option.map_some, hback]
  solid a := .obj (h.solid (split a))

end FlightStore.Json
