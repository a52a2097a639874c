import Mathlib.Data.List.Basic
import Lr35902.MemoryDump
import Lr35902.Proofs.Fields
import Lr35902.Proofs.Numeral

/-!
# Dumps read back

`rows` says which addresses stand in which line of a dump. The text is made of these lines with a
newline behind each (`toList_text`), and a line of entries with a comma behind each. So it can be
taken apart again (`read?`), and what comes out is all of memory (`dump_reads_back`).
-/

namespace Lr35902

theorem Memory.ext_read {m m' : Memory} (h : ∀ a, m.read a = m'.read a) : m = m' := by
  refine Memory.ext (Vector.ext fun i hi => ?_)
  have hcell := h (UInt16.ofNat i)
  unfold read at hcell
  simpa only [UInt16.toNat_ofNat', Nat.mod_eq_of_lt hi] using hcell

/-- The byte at an address below the end of memory. -/
def Memory.cell (m : Memory) (a : Nat) : UInt8 := m.read (UInt16.ofNat a)

theorem Memory.toList_eq (m : Memory) : m.toList = (List.range 65536).map m.cell := by
  refine List.ext_getElem ?_ fun i hi hi' => ?_
  · simp [toList]
  · have hlt : i < 65536 := by simpa [toList] using hi
    simp [toList, cell, read, Nat.mod_eq_of_lt hlt]

namespace MemoryDump

/-- The address and the byte that an entry shows. -/
def readEntry? : List Char → Option (Nat × UInt8)
  | ['0', 'x', a, b, c, d, e, '=', '>', '0', 'x', p, q] =>
    (Numeral.readHex 0 [a, b, c, d, e]).bind fun address =>
      (Numeral.readHex 0 [p, q]).map fun v => (address, UInt8.ofNat v)
  | _ => none

/-- The cells in a line, whose entries have a comma behind each. -/
def readLine? (cs : List Char) : Option (List (Nat × UInt8)) :=
  (Text.terminated? ',' cs).bind (·.mapM readEntry?)

/-- The cells in a dump, whose lines have a newline behind each. -/
def read? (text : String) : Option (List (List (Nat × UInt8))) :=
  (Text.terminated? '\n' text.toList).bind (·.mapM readLine?)

theorem mapM_map_of_some {α β γ : Type} {f : α → β} {g : β → Option γ} {h : α → γ} {xs : List α}
    (hg : ∀ x ∈ xs, g (f x) = some (h x)) : (xs.map f).mapM g = some (xs.map h) := by
  induction xs with
  | nil => rfl
  | cons x xs ih =>
    rw [List.forall_mem_cons] at hg
    rw [List.map_cons, List.mapM_cons, hg.1, ih hg.2]
    rfl

def entryChars (m : Memory) (a : Nat) : List Char :=
  "0x".toList ++ Numeral.hexDigits 5 a ++ "=>0x".toList ++ Numeral.hexDigits 2 (m.cell a).toNat

theorem toList_entry (m : Memory) (a : Nat) :
    (entry a (m.cell a)).toList = entryChars m a ++ [','] := by
  simp [entry, entryChars, Numeral.byte, Numeral.hex]

theorem readEntry?_entryChars (m : Memory) {a : Nat} (ha : a < 65536) :
    readEntry? (entryChars m a) = some (a, m.cell a) := by
  have haddress := Numeral.readHex_hexDigits 5 a
  have hbyte := Numeral.readHex_hexDigits 2 (m.cell a).toNat
  have hlt : (m.cell a).toNat < 16 ^ 2 := (m.cell a).toNat_lt
  rw [Nat.mod_eq_of_lt (by omega)] at haddress
  rw [Nat.mod_eq_of_lt hlt] at hbyte
  obtain ⟨b, c, d, e, f, h₅⟩ : ∃ b c d e f, Numeral.hexDigits 5 a = [b, c, d, e, f] :=
    ⟨_, _, _, _, _, rfl⟩
  obtain ⟨p, q, h₂⟩ : ∃ p q, Numeral.hexDigits 2 (m.cell a).toNat = [p, q] := ⟨_, _, rfl⟩
  unfold entryChars
  rw [h₅] at haddress ⊢
  rw [h₂] at hbyte ⊢
  show (Numeral.readHex 0 [b, c, d, e, f]).bind _ = _
  rw [haddress, hbyte]
  simp

theorem not_mem_entryChars (m : Memory) (a : Nat) {c : Char} (hc : c.isAlphanum = false)
    (hopening : c ∉ "0x".toList) (harrow : c ∉ "=>0x".toList) : c ∉ entryChars m a := by
  simp only [entryChars, List.mem_append, not_or]
  exact ⟨⟨⟨hopening, Numeral.not_mem_hexDigits hc 5 a⟩, harrow⟩,
    Numeral.not_mem_hexDigits hc 2 _⟩

/-! ### Lines -/

/-- The addresses from `a` to the end of memory, line by line. -/
def rows (a : Nat) : List (List Nat) :=
  if a < 65536 then
    List.range' a (min entriesPerLine (65536 - a)) :: rows (a + entriesPerLine)
  else []
termination_by 65536 - a
decreasing_by
  have : entriesPerLine = 30 := rfl
  omega

theorem rows_of_lt {a : Nat} (h : a < 65536) :
    rows a = List.range' a (min 30 (65536 - a)) :: rows (a + 30) := by
  rw [rows, if_pos h]
  rfl

theorem rows_of_le {a : Nat} (h : 65536 ≤ a) : rows a = [] := by
  rw [rows, if_neg (Nat.not_lt.mpr h)]

/-- What holds of no lines behind the end of memory, and of one line more whenever it holds of the
lines behind that line, holds of all lines. -/
@[elab_as_elim] theorem rows_induction {motive : Nat → List (List Nat) → Prop} {a : Nat}
    (ha : a % 30 = 0) (done : ∀ a, 65536 ≤ a → motive a [])
    (line : ∀ a, a % 30 = 0 → a < 65536 → motive (a + 30) (rows (a + 30)) →
      motive a (List.range' a (min 30 (65536 - a)) :: rows (a + 30))) :
    motive a (rows a) := by
  induction a using rows.induct with
  | case1 a h ih =>
    have hnext : (a + 30) % 30 = 0 := by omega
    rw [rows_of_lt h]
    exact line a ha h (ih hnext)
  | case2 a h =>
    rw [rows_of_le (Nat.not_lt.mp h)]
    exact done a (Nat.not_lt.mp h)

variable {a : Nat} {row : List Nat}

/-- Every address stands in a line, in order. -/
theorem flatten_rows (ha : a % 30 = 0) : (rows a).flatten = List.range' a (65536 - a) := by
  refine rows_induction ha (fun a ha => ?_) fun a _ ha ih => ?_
  · rw [Nat.sub_eq_zero_of_le ha]
    rfl
  · rw [List.flatten_cons, ih]
    rcases Nat.le_total 30 (65536 - a) with h | h
    · have hrest : 65536 - a = 30 + (65536 - (a + 30)) := by omega
      rw [Nat.min_eq_left h, hrest]
      exact List.range'_append
    · have hrest : 65536 - (a + 30) = 0 := by omega
      rw [Nat.min_eq_right h, hrest, List.range'_zero, List.append_nil]

theorem length_of_mem_dropLast (ha : a % 30 = 0) (h : row ∈ (rows a).dropLast) :
    row.length = 30 := by
  revert h
  refine rows_induction ha (fun a _ h => ?_) fun a _ ha ih h => ?_
  · cases h
  · by_cases hrest : rows (a + 30) = []
    · rw [hrest] at h
      cases h
    · have hlt : a + 30 < 65536 := Nat.not_le.mp fun hle => hrest (rows_of_le hle)
      rw [List.dropLast_cons_of_ne_nil hrest] at h
      rcases List.mem_cons.mp h with rfl | h
      · rw [List.length_range']
        omega
      · exact ih h

theorem length_getLast? (ha : a % 30 = 0) (hlt : a < 65536) :
    (rows a).getLast?.map List.length = some (65536 % 30) := by
  revert hlt
  refine rows_induction ha (fun a ha hlt => absurd hlt (Nat.not_lt.mpr ha)) fun a _ _ ih _ => ?_
  rcases Nat.lt_or_ge (a + 30) 65536 with hlt | hge
  · have hrest : rows (a + 30) ≠ [] := by
      rw [rows_of_lt hlt]
      exact List.cons_ne_nil _ _
    rw [List.getLast?_cons_of_ne_nil hrest]
    exact ih hlt
  · have hleft : min 30 (65536 - a) = 65536 % 30 := by omega
    rw [rows_of_le hge, List.getLast?_singleton, Option.map_some, List.length_range', hleft]

/-- Consecutive addresses of which the last one, and no other, ends its line. -/
def IsRow (row : List Nat) : Prop :=
  ∃ a n, row = List.range' a (n + 1) ∧ (∀ i < n, lineEnd (a + i) = "") ∧ lineEnd (a + n) = "\n"

/-- Lines are broken where `lineEnd` breaks them. -/
theorem isRow_of_mem (ha : a % 30 = 0) (h : row ∈ rows a) : IsRow row := by
  revert h
  refine rows_induction ha (fun a _ h => ?_) fun a hstart ha ih h => ?_
  · cases h
  · rcases List.mem_cons.mp h with rfl | h
    · -- From a multiple of thirty on, neither the next one nor the end of memory comes early.
      refine ⟨a, min 30 (65536 - a) - 1, ?_, fun i hi => if_neg ?_, if_pos ?_⟩
      · rw [Nat.sub_add_cancel (by omega)]
      · rw [entriesPerLine]
        omega
      · rw [entriesPerLine]
        omega
    · exact ih h

/-! ### The text -/

/-- A line of a dump up to its newline. -/
def lineChars (m : Memory) (row : List Nat) : List Char :=
  row.flatMap fun a => entryChars m a ++ [',']

theorem lineChars_concat (m : Memory) (row : List Nat) (a : Nat) :
    lineChars m (row ++ [a]) = lineChars m row ++ (entryChars m a ++ [',']) := by
  unfold lineChars
  rw [List.flatMap_append, List.flatMap_singleton]

/-- The entries of a line make it up, and the newline stands behind the last of them. -/
theorem flatMap_row (m : Memory) (h : IsRow row) :
    row.flatMap (fun a => (entry a (m.cell a) ++ lineEnd a).toList) =
      lineChars m row ++ ['\n'] := by
  obtain ⟨a, n, rfl, hinner, hlast⟩ := h
  have hentries : (List.range' a n).flatMap (fun a => (entry a (m.cell a) ++ lineEnd a).toList) =
      lineChars m (List.range' a n) := by
    refine List.flatMap_congr fun b hb => ?_
    obtain ⟨i, hi, rfl⟩ := List.mem_range'.mp hb
    rw [Nat.one_mul, hinner i hi, String.append_empty, toList_entry]
  rw [List.range'_concat, List.flatMap_append, hentries, lineChars_concat, List.append_assoc,
    List.flatMap_singleton, Nat.one_mul, hlast, String.toList_append, toList_entry]
  rfl

theorem entries_map (f : Nat → UInt8) (a n : Nat) :
    entries a ((List.range' a n).map f) =
      (List.range' a n).map fun i => entry i (f i) ++ lineEnd i := by
  induction n generalizing a with
  | zero => rfl
  | succ n ih =>
    rw [List.range'_succ, List.map_cons, entries, ih, List.map_cons]

theorem toList_text (m : Memory) :
    (text m).toList = (rows 0).flatMap fun row => lineChars m row ++ ['\n'] := by
  have hcells : List.range' 0 65536 = (rows 0).flatten := (flatten_rows rfl).symm
  unfold text
  rw [Memory.toList_eq, List.range_eq_range', entries_map, String.toList_join, List.flatMap_map,
    hcells, ← List.flatMap_id, List.flatMap_assoc]
  exact List.flatMap_congr fun row hrow => flatMap_row m (isRow_of_mem rfl hrow)

theorem readLine?_lineChars (m : Memory) (h : ∀ a ∈ row, a < 65536) :
    readLine? (lineChars m row) = some (row.map fun a => (a, m.cell a)) := by
  have hparts : Text.terminated? ',' (lineChars m row) = some (row.map (entryChars m)) :=
    Text.terminated?_flatMap fun a _ => not_mem_entryChars m a rfl (by decide) (by decide)
  unfold readLine?
  rw [hparts, Option.bind_some]
  exact mapM_map_of_some fun a ha => readEntry?_entryChars m (h a ha)

theorem newline_not_mem_lineChars (m : Memory) (row : List Nat) : '\n' ∉ lineChars m row := by
  intro h
  obtain ⟨a, -, ha⟩ := List.mem_flatMap.mp h
  rcases List.mem_append.mp ha with ha | ha
  · exact not_mem_entryChars m a rfl (by decide) (by decide) ha
  · exact absurd ha (by decide)

theorem read?_text (m : Memory) :
    read? (text m) = some ((rows 0).map fun row => row.map fun a => (a, m.cell a)) := by
  have hbelow : ∀ row ∈ rows 0, ∀ a ∈ row, a < 65536 := by
    intro row hrow a ha
    have hmem : a ∈ (rows 0).flatten := List.mem_flatten_of_mem hrow ha
    rw [flatten_rows rfl, List.mem_range'_1] at hmem
    omega
  unfold read?
  rw [toList_text, Text.terminated?_flatMap fun row _ => newline_not_mem_lineChars m row,
    Option.bind_some]
  exact mapM_map_of_some fun row hrow => readLine?_lineChars m (hbelow row hrow)

theorem flatten_cells (m : Memory) :
    ((rows 0).map fun row => row.map fun a => (a, m.cell a)).flatten =
      (List.range 65536).map fun a => (a, m.cell a) := by
  rw [← List.map_flatten, flatten_rows rfl, Nat.sub_zero, List.range_eq_range']

/-- A dump reads back as all of memory: every address with its byte, once and in order, in lines of
thirty entries and a last line of those that are left. So it says what memory holds. -/
theorem dump_reads_back (m : Memory) :
    (∃ lines, read? (text m) = some lines ∧
      lines.flatten = (List.range 65536).map (fun a => (a, m.read (UInt16.ofNat a))) ∧
      (∀ line ∈ lines.dropLast, line.length = 30) ∧
      lines.getLast?.map List.length = some (65536 % 30)) ∧
    ∀ m' : Memory, text m = text m' ↔ m = m' := by
  refine ⟨⟨_, read?_text m, flatten_cells m, ?_, ?_⟩, fun m' => ⟨fun h => ?_, congrArg text⟩⟩
  · intro line hline
    rw [← List.map_dropLast] at hline
    obtain ⟨row, hrow, rfl⟩ := List.mem_map.mp hline
    rw [List.length_map]
    exact length_of_mem_dropLast rfl hrow
  · simp only [List.getLast?_map, Option.map_map, Function.comp_def, List.length_map]
    exact length_getLast? rfl (by decide)
  · have hread := read?_text m
    rw [h, read?_text m'] at hread
    have hcells := congrArg List.flatten (Option.some.inj hread)
    rw [flatten_cells, flatten_cells, List.map_inj_left] at hcells
    refine Memory.ext_read fun a => ?_
    have hcell := congrArg Prod.snd (hcells a.toNat (List.mem_range.mpr a.toNat_lt))
    simp only [Memory.cell, UInt16.ofNat_toNat] at hcell
    exact hcell.symm

end MemoryDump

end Lr35902
