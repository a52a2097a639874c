import Mathlib.Data.List.Chain
import Lr35902.Proofs.Decoding
import Lr35902.Proofs.Fields
import Lr35902.Proofs.Numeral

/-!
# Listings

A listing covers memory from its start to the end: each line begins where the one before ends, so
that every address lies in exactly one of them, and from any of its lines on it is the listing from
there (`listing_covers`). Printed, every line is a line of text and shows its address.
-/

namespace Lr35902

/-! ### Texts within a line -/

/-- A text without a line break. -/
def OneLine (s : String) : Prop := '\n' ∉ s.toList

instance : DecidablePred OneLine := fun s => inferInstanceAs (Decidable ('\n' ∉ s.toList))

@[simp] theorem oneLine_append {s t : String} : OneLine (s ++ t) ↔ OneLine s ∧ OneLine t := by
  simp [OneLine]

namespace Numeral

@[simp] theorem oneLine_hex (width n : Nat) : OneLine (hex width n) := by
  rw [OneLine, hex, String.toList_ofList]
  exact not_mem_hexDigits rfl width n

@[simp] theorem oneLine_decimal (n : Nat) : OneLine (decimal n) := by
  rw [OneLine, decimal, String.toList_ofList]
  exact not_mem_toDigits rfl n

@[simp] theorem oneLine_byte (n : UInt8) : OneLine (byte n) := by
  simp +decide [byte]

@[simp] theorem oneLine_word (nn : UInt16) : OneLine (word nn) := by
  simp +decide [word]

@[simp] theorem oneLine_signedDecimal (z : Int) : OneLine (signedDecimal z) := by
  unfold signedDecimal
  split <;> simp +decide

end Numeral

@[simp] theorem Operand.oneLine_name (o : Operand) : OneLine o.name := by
  cases o with
  | reg r => cases r <;> decide
  | atHl => decide

@[simp] theorem Reg16.oneLine_name (r : Reg16) : OneLine r.name := by
  cases r <;> decide

@[simp] theorem Condition.oneLine_name (cc : Condition) : OneLine cc.name := by
  cases cc <;> decide

@[simp] theorem Pointer.oneLine_name (p : Pointer) : OneLine p.name := by
  cases p <;> decide

@[simp] theorem AluOp.oneLine_opening (op : AluOp) : OneLine op.opening := by
  cases op <;> decide

@[simp] theorem ShiftOp.oneLine_name (op : ShiftOp) : OneLine op.name := by
  cases op <;> decide

@[simp] theorem CbInstr.oneLine_mnemonic (i : CbInstr) : OneLine i.mnemonic := by
  cases i <;> simp +decide [mnemonic]

@[simp] theorem Instr.oneLine_mnemonic (i : Instr) : OneLine i.mnemonic := by
  cases i <;> simp +decide [mnemonic, offsetText]

namespace ListingLine

/-- A line as it is printed, up to the newline. -/
def chars (l : ListingLine) : List Char :=
  ("0x" ++ Numeral.hex 5 l.address ++ "\t=> " ++ Numeral.byte l.opcode ++ "\t" ++ l.mnemonic).toList

theorem toList_text (l : ListingLine) : l.text.toList = l.chars ++ ['\n'] := by
  simp [text, chars]

theorem newline_not_mem_chars {l : ListingLine} (h : OneLine l.mnemonic) : '\n' ∉ l.chars := by
  show OneLine _
  simp +decide [h]

/-- The address that a printed line begins with. -/
def printedAddress? : List Char → Option Nat
  | '0' :: 'x' :: cs => Numeral.readHex 0 (cs.takeWhile (· ≠ '\t'))
  | _ => none

theorem printedAddress?_chars {l : ListingLine} (h : l.address < 65536) :
    printedAddress? l.chars = some l.address := by
  have hchars : l.chars = '0' :: 'x' :: (Numeral.hexDigits 5 l.address ++
      '\t' :: ("=> " ++ Numeral.byte l.opcode ++ "\t" ++ l.mnemonic).toList) := by
    simp [chars, Numeral.hex]
  have hdigits : ∀ c ∈ Numeral.hexDigits 5 l.address, decide (c ≠ '\t') = true := by
    rintro c hc
    refine decide_eq_true ?_
    rintro rfl
    exact Numeral.not_mem_hexDigits rfl 5 l.address hc
  rw [hchars, printedAddress?, List.takeWhile_append_of_pos hdigits,
    List.takeWhile_cons_of_neg (by decide), List.append_nil, Numeral.readHex_hexDigits,
    Nat.mod_eq_of_lt (by omega)]

/-- Whether an address lies in the bytes of a line's instruction. -/
def spans (l : ListingLine) (a : Nat) : Bool := l.address ≤ a && a < l.address + l.length

theorem spans_iff {l : ListingLine} {a : Nat} :
    l.spans a = true ↔ l.address ≤ a ∧ a < l.address + l.length := by
  simp [spans]

end ListingLine

namespace Memory

variable {m : Memory} {a b : Nat} {l : ListingLine}

/-! ### The lines -/

theorem listing_of_lt (m : Memory) (h : a < 65536) :
    m.listing a = m.disassemble a :: m.listing (a + (m.disassemble a).length) := by
  rw [listing, if_pos h]
  rfl

theorem listing_of_le (m : Memory) (h : 65536 ≤ a) : m.listing a = [] := by
  rw [listing, if_neg (Nat.not_lt.mpr h)]

theorem le_of_listing_eq_nil (h : m.listing a = []) : 65536 ≤ a := by
  refine Nat.not_lt.mp fun hlt => ?_
  rw [listing_of_lt m hlt] at h
  cases h

/-- What holds of no lines behind the end of memory, and of one line more whenever it holds of the
lines behind that line, holds of every listing. -/
@[elab_as_elim] theorem listing_induction {motive : Nat → List ListingLine → Prop} (m : Memory)
    (a : Nat) (done : ∀ a, 65536 ≤ a → motive a [])
    (line : ∀ a, a < 65536 →
      motive (a + (m.disassemble a).length) (m.listing (a + (m.disassemble a).length)) →
      motive a (m.disassemble a :: m.listing (a + (m.disassemble a).length))) :
    motive a (m.listing a) := by
  induction a using listing.induct m with
  | case1 a h ih =>
    rw [listing_of_lt m h]
    exact line a h ih
  | case2 a h =>
    rw [listing_of_le m (Nat.not_lt.mp h)]
    exact done a (Nat.not_lt.mp h)

theorem length_disassemble_pos (m : Memory) (a : Nat) : 0 < (m.disassemble a).length :=
  Opcode.length_pos _

/-- Each line is what the disassembler shows at its address, which is one in memory. -/
theorem of_mem_listing (h : l ∈ m.listing a) :
    a ≤ l.address ∧ l.address < 65536 ∧ l = m.disassemble l.address := by
  revert h
  refine listing_induction m a (fun a _ h => ?_) fun a ha ih h => ?_
  · cases h
  · rcases List.mem_cons.mp h with rfl | h
    · exact ⟨Nat.le_refl a, ha, rfl⟩
    · obtain ⟨hle, hrest⟩ := ih h
      exact ⟨Nat.le_trans (Nat.le_add_right ..) hle, hrest⟩

theorem length_listing_le (m : Memory) (a : Nat) : (m.listing a).length ≤ 65536 - a := by
  refine listing_induction m a (fun a _ => Nat.zero_le _) fun a ha ih => ?_
  have := m.length_disassemble_pos a
  rw [List.length_cons]
  omega

theorem eq_of_mem_head? (h : l ∈ (m.listing a).head?) : l = m.disassemble a := by
  rcases Nat.lt_or_ge a 65536 with ha | ha
  · rw [listing_of_lt m ha] at h
    exact (Option.some.inj h).symm
  · rw [listing_of_le m ha] at h
    cases h

/-- Each line begins where the one before ends. -/
theorem isChain_listing (m : Memory) (a : Nat) :
    (m.listing a).IsChain fun l l' => l'.address = l.address + Opcode.length l.opcode := by
  refine listing_induction m a (fun a _ => List.isChain_nil) fun a _ ih => ?_
  refine List.isChain_cons.mpr ⟨fun l hl => ?_, ih⟩
  rw [eq_of_mem_head? hl]
  rfl

/-- Every address from the start on lies in one line. -/
theorem countP_spans (m : Memory) (hab : a ≤ b) (hb : b < 65536) :
    (m.listing a).countP (·.spans b) = 1 := by
  revert hab
  refine listing_induction m a (fun a ha hab => ?_) fun a ha ih hab => ?_
  · omega
  · rcases Nat.lt_or_ge b (a + (m.disassemble a).length) with hlt | hge
    · have hspans : (m.disassemble a).spans b = true := ListingLine.spans_iff.mpr ⟨hab, hlt⟩
      have hrest : ∀ l ∈ m.listing (a + (m.disassemble a).length), ¬l.spans b = true := by
        intro l hl
        have := (of_mem_listing hl).1
        rw [ListingLine.spans_iff]
        omega
      rw [List.countP_cons, if_pos hspans, List.countP_eq_zero.mpr hrest]
    · have hpast : ¬(m.disassemble a).spans b = true := by
        rw [ListingLine.spans_iff]
        exact fun h => Nat.not_lt.mpr hge h.2
      rw [List.countP_cons, if_neg hpast, ih hge]

theorem lt_of_mem_dropLast_listing (h : l ∈ (m.listing a).dropLast) :
    l.address + l.length < 65536 := by
  revert h
  refine listing_induction m a (fun a _ h => ?_) fun a ha ih h => ?_
  · cases h
  · by_cases hrest : m.listing (a + (m.disassemble a).length) = []
    · rw [hrest] at h
      cases h
    · rw [List.dropLast_cons_of_ne_nil hrest] at h
      rcases List.mem_cons.mp h with rfl | h
      · exact Nat.not_le.mp fun hle => hrest (listing_of_le m hle)
      · exact ih h

/-- From any of its lines on, a listing is the listing from there. -/
theorem suffix_of_mem_listing (h : l ∈ m.listing a) : m.listing l.address <:+ m.listing a := by
  revert h
  refine listing_induction m a (fun a _ h => ?_) fun a ha ih h => ?_
  · cases h
  · rcases List.mem_cons.mp h with rfl | h
    · rw [← listing_of_lt m ha]
      exact List.suffix_rfl
    · exact (ih h).trans (List.suffix_cons ..)

/-! ### The text -/

theorem toList_listingText (m : Memory) (a : Nat) :
    (m.listingText a).toList = (m.listing a).flatMap fun l => l.chars ++ ['\n'] := by
  unfold listingText
  rw [String.toList_join, List.flatMap_map]
  simp only [ListingLine.toList_text]

theorem terminated?_listingText (m : Memory) (a : Nat) :
    Text.terminated? '\n' (m.listingText a).toList = some ((m.listing a).map (·.chars)) := by
  rw [toList_listingText]
  refine Text.terminated?_flatMap fun l hl => ?_
  rw [(of_mem_listing hl).2.2]
  exact ListingLine.newline_not_mem_chars (Instr.oneLine_mnemonic _)

/-- A listing is printed as one line of text for each of its lines, at most as many as there are
addresses. The first is at the start, each of the others where the one before ends, and all of them
in memory, so that their addresses are printed as they are. Every address from the start on lies in
the bytes of exactly one line, and none but the last line goes on past the end of memory. Each line
is what the disassembler shows at its address, and from there on the listing is the listing from
there. -/
theorem listing_covers (m : Memory) (start : UInt16) :
    let lines := m.listing start.toNat
    (Text.terminated? '\n' (m.listingText start.toNat).toList = some (lines.map (·.chars)) ∧
      lines.length ≤ 65536 - start.toNat) ∧
    lines.head?.map (·.address) = some start.toNat ∧
    (lines.IsChain fun l l' => l'.address = l.address + Opcode.length l.opcode) ∧
    (∀ l ∈ lines, l.address < 65536 ∧ ListingLine.printedAddress? l.chars = some l.address ∧
      l = m.disassemble l.address) ∧
    (∀ a, start.toNat ≤ a → a < 65536 → lines.countP (·.spans a) = 1) ∧
    (∀ l ∈ lines.dropLast, l.address + l.length < 65536) ∧
    ∀ l ∈ lines, ∃ before, lines = before ++ m.listing l.address := by
  intro lines
  refine ⟨⟨m.terminated?_listingText _, m.length_listing_le _⟩, ?_, m.isChain_listing _,
    fun l hl => ?_, fun a ha hlt => m.countP_spans ha hlt,
    fun l hl => lt_of_mem_dropLast_listing hl, fun l hl => ?_⟩
  · show (m.listing start.toNat).head?.map _ = _
    rw [listing_of_lt m start.toNat_lt]
    rfl
  · obtain ⟨-, hlt, hshown⟩ := of_mem_listing hl
    exact ⟨hlt, ListingLine.printedAddress?_chars hlt, hshown⟩
  · obtain ⟨before, hbefore⟩ := suffix_of_mem_listing hl
    exact ⟨before, hbefore.symm⟩

end Memory

end Lr35902
