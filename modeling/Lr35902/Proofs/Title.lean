import Lr35902.Cartridge
import Lr35902.Proofs.Utf8

/-!
# Titles

What is left of a stripped text is determined by what was before and behind it (`IsStripped`), so
padding does not matter. With the decoder's round trip this gives the title of a cartridge: the text
in the header without its padding and the blanks around it (`title_reads_back`).
-/

namespace Lr35902

namespace Text

/-- What is left of a text when all characters of a class are taken from both of its ends. -/
structure IsStripped (p : Char → Bool) (cs ds : List Char) : Prop where
  parts : ∃ front back, cs = front ++ (ds ++ back) ∧ (∀ c ∈ front, p c = true) ∧
    ∀ c ∈ back, p c = true
  head : ∀ c ∈ ds.head?, p c = false
  last : ∀ c ∈ ds.getLast?, p c = false

variable {p : Char → Bool} {cs ds back : List Char}

theorem head?_dropWhile {c : Char} (h : c ∈ (cs.dropWhile p).head?) : p c = false := by
  have hnot := List.head?_dropWhile_not p cs
  rw [Option.mem_def.mp h] at hnot
  exact hnot

theorem dropWhile_of_head (h : ∀ c ∈ cs.head?, p c = false) : cs.dropWhile p = cs := by
  cases cs with
  | nil => rfl
  | cons c cs => exact List.dropWhile_cons_of_neg (by simp [h c rfl])

theorem stripEnd_append (hback : ∀ c ∈ back, p c = true) :
    stripEnd p (cs ++ back) = stripEnd p cs := by
  unfold stripEnd
  rw [List.reverse_append,
    List.dropWhile_append_of_pos fun c hc => hback c (List.mem_reverse.mp hc)]

theorem stripEnd_of_last (h : ∀ c ∈ cs.getLast?, p c = false) : stripEnd p cs = cs := by
  rw [← List.head?_reverse] at h
  rw [stripEnd, dropWhile_of_head h, List.reverse_reverse]

theorem stripEnd_append_dropped (p : Char → Bool) (cs : List Char) :
    stripEnd p cs ++ (cs.reverse.takeWhile p).reverse = cs := by
  rw [stripEnd, ← List.reverse_append, List.takeWhile_append_dropWhile, List.reverse_reverse]

theorem IsStripped.strip_eq (h : IsStripped p cs ds) : strip p cs = ds := by
  obtain ⟨⟨front, back, rfl, hfront, hback⟩, hhead, hlast⟩ := h
  rw [strip, List.dropWhile_append_of_pos hfront]
  cases ds with
  | nil =>
    -- The whole text is of the class, and all of it goes from the front.
    rw [List.nil_append, ← List.append_nil back, List.dropWhile_append_of_pos hback]
    rfl
  | cons d ds =>
    have hrest : (d :: ds ++ back).dropWhile p = d :: ds ++ back := dropWhile_of_head hhead
    rw [hrest, stripEnd_append hback, stripEnd_of_last hlast]

theorem isStripped_strip (p : Char → Bool) (cs : List Char) : IsStripped p cs (strip p cs) where
  parts := by
    refine ⟨cs.takeWhile p, ((cs.dropWhile p).reverse.takeWhile p).reverse, ?_, fun c hc => ?_,
      fun c hc => ?_⟩
    · rw [strip, stripEnd_append_dropped, List.takeWhile_append_dropWhile]
    · exact List.all_eq_true.mp List.all_takeWhile c hc
    · exact List.all_eq_true.mp List.all_takeWhile c (List.mem_reverse.mp hc)
  head c hc := by
    have hrest : c ∈ (cs.dropWhile p).head? := by
      rw [← stripEnd_append_dropped p (cs.dropWhile p), List.head?_append]
      exact Option.or_eq_some_iff.mpr (.inl hc)
    exact head?_dropWhile hrest
  last c hc := by
    rw [strip, stripEnd, List.getLast?_reverse] at hc
    exact head?_dropWhile hc

/-- Padding is taken off with the rest. -/
theorem strip_append (hback : ∀ c ∈ back, p c = true) : strip p (cs ++ back) = strip p cs := by
  obtain ⟨⟨front, rest, hparts, hfront, hrest⟩, hhead, hlast⟩ := isStripped_strip p cs
  refine IsStripped.strip_eq ⟨⟨front, rest ++ back, ?_, hfront, ?_⟩, hhead, hlast⟩
  · nth_rewrite 1 [hparts]
    simp only [List.append_assoc]
  · rw [List.forall_mem_append]
    exact ⟨hrest, hback⟩

/-- Whether a character stands at either end of a text. -/
def AtEnd (cs : List Char) (c : Char) : Prop := c ∈ cs.head? ∨ c ∈ cs.getLast?

theorem strip_of_ends (h : ∀ c, AtEnd cs c → p c = false) : strip p cs = cs :=
  IsStripped.strip_eq ⟨⟨[], [], by simp, by simp, by simp⟩, fun c hc => h c (.inl hc),
    fun c hc => h c (.inr hc)⟩

end Text

namespace Cartridge

variable {c : Cartridge}

theorem title?_eq_none_iff : c.title? = none ↔ c.size < 0x144 := by
  unfold title?
  split_ifs with h
  · simp [Nat.not_lt.mpr h]
  · simp [Nat.not_le.mp h]

theorem title?_of_field {s : String} {n : Nat} (hsize : 0x144 ≤ c.size)
    (hfield : c.titleField = s.toUTF8.data.toList ++ List.replicate n 0) :
    c.title? = some (String.ofList
      (Text.strip Text.isBlank (Text.strip (· == '\x00') s.toList))) := by
  rw [title?, if_pos hsize, hfield, Utf8.decode_append, Utf8.decode_replicate_zero,
    Text.strip_append]
  simp

theorem length_titleField (c : Cartridge) : c.titleField.length = min 16 (c.size - 0x134) := by
  rw [titleField, List.length_take, List.length_drop, size]

theorem title?_congr {c' : Cartridge} (h : c.titleField = c'.titleField) :
    c.title? = c'.title? := by
  have hlength := congrArg List.length h
  rw [length_titleField, length_titleField] at hlength
  have hsize : 0x144 ≤ c.size ↔ 0x144 ≤ c'.size := by omega
  simp only [title?, h, hsize]

/-- The title of a cartridge is the text that its header has in UTF-8, first without the padding and
then without the blanks around it. Whatever its header has, its title neither begins nor ends with a
blank and is a matter of the sixteen bytes of the field alone. Only a cartridge too short to have
the field is without a title. -/
theorem title_reads_back (c : Cartridge) :
    (∀ (s : String) (n : Nat), 0x144 ≤ c.size →
      c.titleField = s.toUTF8.data.toList ++ List.replicate n 0 →
      (∃ unpadded title, Text.IsStripped (· == '\x00') s.toList unpadded ∧
        Text.IsStripped Text.isBlank unpadded title ∧
        c.title? = some (String.ofList title)) ∧
      ((∀ ch, Text.AtEnd s.toList ch → ch ≠ '\x00' ∧ Text.isBlank ch = false) →
        c.title? = some s)) ∧
    (∀ title, c.title? = some title → ∀ ch, Text.AtEnd title.toList ch → Text.isBlank ch = false) ∧
    (∀ c' : Cartridge, c.titleField = c'.titleField → c.title? = c'.title?) ∧
    (c.title? = none ↔ c.size < 0x144) := by
  refine ⟨fun s n hsize hfield => ⟨?_, fun hends => ?_⟩, fun title htitle => ?_,
    fun c' => title?_congr, title?_eq_none_iff⟩
  · exact ⟨_, _, Text.isStripped_strip _ _, Text.isStripped_strip _ _,
      title?_of_field hsize hfield⟩
  · have hunpadded : Text.strip (· == '\x00') s.toList = s.toList :=
      Text.strip_of_ends fun ch hch => beq_eq_false_iff_ne.mpr (hends ch hch).1
    have hstripped : Text.strip Text.isBlank s.toList = s.toList :=
      Text.strip_of_ends fun ch hch => (hends ch hch).2
    rw [title?_of_field hsize hfield, hunpadded, hstripped, String.ofList_toList]
  · unfold title? at htitle
    split_ifs at htitle
    obtain rfl := Option.some.inj htitle
    rw [String.toList_ofList]
    have hstripped := Text.isStripped_strip Text.isBlank
      (Text.strip (· == '\x00') (Utf8.decode c.titleField))
    rintro ch (hch | hch)
    · exact hstripped.head ch hch
    · exact hstripped.last ch hch

/-- A cartridge that ends with its title field. -/
def ofTitleField (field : List UInt8) (h : field.length = 16) : Cartridge where
  bytes := List.replicate 0x134 0 ++ field
  bytes_ne_nil hnil := by
    rw [(List.append_eq_nil_iff.mp hnil).2] at h
    cases h
  length_le := by
    rw [List.length_append, List.length_replicate, h]
    decide

section

variable (field : List UInt8) (h : field.length = 16)

theorem size_ofTitleField : (ofTitleField field h).size = 0x144 := by
  rw [size, ofTitleField, List.length_append, List.length_replicate, h]

theorem titleField_ofTitleField : (ofTitleField field h).titleField = field := by
  rw [titleField, ofTitleField, List.drop_left' List.length_replicate,
    List.take_of_length_le (Nat.le_of_eq h)]

end

/-- A title with characters of one to four bytes, which leave two for padding. -/
theorem title_reads_back_wide :
    let c := ofTitleField [0x5A, 0x6F, 0xC3, 0xAB, 0x20, 0xE6, 0x9C, 0x88, 0x20, 0xF0, 0x9F, 0x8E,
      0xAE, 0x21, 0x00, 0x00] rfl
    0x144 ≤ c.size ∧
    c.titleField = "Zoë 月 🎮!".toUTF8.data.toList ++ List.replicate 2 0 ∧
    (∀ ch, Text.AtEnd "Zoë 月 🎮!".toList ch → ch ≠ '\x00' ∧ Text.isBlank ch = false) ∧
    c.title? = some "Zoë 月 🎮!" ∧
    ∀ ch, Text.AtEnd "Zoë 月 🎮!".toList ch → Text.isBlank ch = false := by
  intro c
  have hsize : 0x144 ≤ c.size := Nat.le_of_eq (size_ofTitleField _ _).symm
  have hfield : c.titleField = "Zoë 月 🎮!".toUTF8.data.toList ++ List.replicate 2 0 := by
    rw [Utf8.toList_toUTF8]
    exact titleField_ofTitleField _ _
  have hends : ∀ ch, Text.AtEnd "Zoë 月 🎮!".toList ch → ch ≠ '\x00' ∧ Text.isBlank ch = false := by
    rintro ch (hch | hch) <;> cases hch <;> decide
  obtain ⟨hread, hbare, -, -⟩ := title_reads_back c
  have htitle := (hread _ 2 hsize hfield).2 hends
  exact ⟨hsize, hfield, hends, htitle, hbare _ htitle⟩

end Cartridge

end Lr35902
