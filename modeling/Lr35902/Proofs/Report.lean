import Lr35902.Snapshot.Report
import Lr35902.Proofs.Fields
import Lr35902.Proofs.Numeral
import Mathlib.Data.List.Basic

/-!
# Reports told apart

A report can be taken apart from its front: a numeral, a name or the opening of a sentence can be
told from what is written behind it, as no two of its kind begin alike (`SelfDelimiting`). The
fields of a JSON object are the parts between its commas. So both reports say what the snapshot is,
except that a table does not show the decoding state of a machine that runs
(`reports_determine_snapshot`).
-/

namespace Lr35902

/-- Parts without the separator's first character are determined by the text they make up. -/
theorem Text.intercalate_inj {sep : Char} {gap : List Char} {xs ys : List (List Char)}
    (hxs : ∀ x ∈ xs, sep ∉ x) (hys : ∀ y ∈ ys, sep ∉ y) (hlength : xs.length = ys.length)
    (h : (sep :: gap).intercalate xs = (sep :: gap).intercalate ys) : xs = ys := by
  induction xs generalizing ys with
  | nil => exact (List.length_eq_zero_iff.mp hlength.symm).symm
  | cons x xs ih =>
    obtain ⟨y, ys, rfl⟩ := List.exists_cons_of_length_eq_add_one hlength.symm
    rw [List.forall_mem_cons] at hxs hys
    have htail : xs.length = ys.length := Nat.succ.inj hlength
    cases xs with
    | nil =>
      obtain rfl := List.length_eq_zero_iff.mp htail.symm
      simpa using h
    | cons x' xs =>
      obtain ⟨y', ys, rfl⟩ := List.exists_cons_of_length_eq_add_one htail.symm
      rw [List.intercalate_cons_cons, List.intercalate_cons_cons, List.append_assoc,
        List.append_assoc, List.cons_append, List.cons_append] at h
      obtain ⟨hhead, hrest⟩ := Text.append_cons_inj hxs.1 hys.1 h
      rw [hhead, ih hxs.2 hys.2 htail (List.append_cancel_left hrest)]

/-! ### Texts that show where they end -/

/-- No text begins another. -/
def SelfDelimiting {α : Type} (f : α → String) : Prop :=
  ∀ x y : α, (f x).toList <+: (f y).toList → x = y

namespace SelfDelimiting

variable {α : Type} {f : α → String} {x y : α} {t u : String}

theorem append_inj (hf : SelfDelimiting f) (h : f x ++ t = f y ++ u) : x = y ∧ t = u := by
  have hlist : (f x).toList ++ t.toList = (f y).toList ++ u.toList := by
    rw [← String.toList_append, h, String.toList_append]
  have hx : (f x).toList <+: (f y).toList ++ u.toList := ⟨t.toList, hlist⟩
  have hy : (f y).toList <+: (f y).toList ++ u.toList := List.prefix_append _ _
  have hxy : x = y := by
    rcases List.prefix_or_prefix_of_prefix hx hy with hpre | hpre
    · exact hf x y hpre
    · exact (hf y x hpre).symm
  subst hxy
  exact ⟨rfl, (String.append_right_inj _).mp h⟩

theorem of_length {n : Nat} (hlength : ∀ x, (f x).length = n) (hf : ∀ x y, f x = f y → x = y) :
    SelfDelimiting f := by
  intro x y hpre
  refine hf x y (String.toList_inj.mp (hpre.eq_of_length ?_))
  rw [String.length_toList, String.length_toList, hlength, hlength]

/-- A character ends the texts that do not hold it. -/
theorem terminated {c : Char} {rest : List Char} (hc : ∀ x, c ∉ (f x).toList)
    (hf : ∀ x y, f x = f y → x = y) (hend : t.toList = c :: rest) :
    SelfDelimiting fun x => f x ++ t := by
  rintro x y ⟨cs, h⟩
  rw [String.toList_append, String.toList_append, hend, List.append_assoc] at h
  exact hf x y (String.toList_inj.mp (Text.append_cons_inj (hc x) (hc y) h).1)

end SelfDelimiting

namespace Numeral

theorem selfDelimiting_byte : SelfDelimiting byte := by
  refine .of_length (n := 4) (fun b => ?_) fun b b' h => ?_
  · simp +decide [byte, hex, length_hexDigits]
  · exact UInt8.toNat_inj.mp
      (eq_of_hex_eq b.toNat_lt b'.toNat_lt ((String.append_right_inj _).mp h))

theorem selfDelimiting_word : SelfDelimiting word := by
  refine .of_length (n := 6) (fun w => ?_) fun w w' h => ?_
  · simp +decide [word, hex, length_hexDigits]
  · exact UInt16.toNat_inj.mp
      (eq_of_hex_eq w.toNat_lt w'.toNat_lt ((String.append_right_inj _).mp h))

theorem selfDelimiting_bit : SelfDelimiting bit := by
  unfold SelfDelimiting
  decide

theorem decimal_line_inj {m n : Nat} {t u : String}
    (h : decimal m ++ ("\n" ++ t) = decimal n ++ ("\n" ++ u)) : m = n ∧ t = u := by
  have hline : SelfDelimiting fun n => decimal n ++ "\n" := by
    refine .terminated (c := '\n') (fun n => ?_) (fun m n => decimal_inj.mp) rfl
    rw [decimal, String.toList_ofList]
    exact not_mem_toDigits rfl n
  rw [← String.append_assoc, ← String.append_assoc] at h
  exact hline.append_inj h

end Numeral

namespace Snapshot

variable {s s' : Snapshot} {t u : String}

/-! ### The table -/

theorem registerLine_inj {left right : String} {x x' y y' : UInt8}
    (h : registerLine left x right y ++ t = registerLine left x' right y' ++ u) :
    x = x' ∧ y = y' ∧ t = u := by
  unfold registerLine at h
  simp only [String.append_assoc, String.append_right_inj] at h
  obtain ⟨hx, h⟩ := Numeral.selfDelimiting_byte.append_inj h
  simp only [String.append_right_inj] at h
  obtain ⟨hy, h⟩ := Numeral.selfDelimiting_byte.append_inj h
  exact ⟨hx, hy, (String.append_right_inj _).mp h⟩

theorem flagLine_inj (h : s.flagLine ++ t = s'.flagLine ++ u) :
    s.zero = s'.zero ∧ s.subtract = s'.subtract ∧ s.halfCarry = s'.halfCarry ∧
      s.carry = s'.carry ∧ t = u := by
  unfold flagLine at h
  simp only [String.append_assoc, String.append_right_inj] at h
  obtain ⟨hzero, h⟩ := Numeral.selfDelimiting_bit.append_inj h
  simp only [String.append_right_inj] at h
  obtain ⟨hsubtract, h⟩ := Numeral.selfDelimiting_bit.append_inj h
  simp only [String.append_right_inj] at h
  obtain ⟨hhalf, h⟩ := Numeral.selfDelimiting_bit.append_inj h
  simp only [String.append_right_inj] at h
  obtain ⟨hcarry, h⟩ := Numeral.selfDelimiting_bit.append_inj h
  exact ⟨hzero, hsubtract, hhalf, hcarry, (String.append_right_inj _).mp h⟩

/-- The first of two opcode bytes is not taken for an opcode that stands alone. -/
theorem prefix_append_ne (n m : UInt8) :
    "0xCB " ++ (Numeral.byte n ++ t) ≠ Numeral.byte m ++ (" at " ++ u) := by
  intro h
  have hlist := congrArg String.toList h
  simp [Numeral.byte, Numeral.hex, Numeral.hexDigits] at hlist

theorem opcodePhrase_inj (h : s.opcodePhrase ++ t = s'.opcodePhrase ++ u) :
    s.opcode = s'.opcode ∧ s.opcodeAddress = s'.opcodeAddress ∧ s.prefixed = s'.prefixed ∧
      t = u := by
  have hprefixed : s.prefixed = s'.prefixed := by
    unfold opcodePhrase at h
    cases hs : s.prefixed <;> cases hs' : s'.prefixed <;>
      simp only [hs, hs', Bool.false_eq_true, ↓reduceIte, String.empty_append,
        String.append_assoc] at h
    · rfl
    · exact absurd h.symm (prefix_append_ne _ _)
    · exact absurd h (prefix_append_ne _ _)
    · rfl
  unfold opcodePhrase at h
  simp only [hprefixed, String.append_assoc, String.append_right_inj] at h
  obtain ⟨hopcode, h⟩ := Numeral.selfDelimiting_byte.append_inj h
  obtain ⟨haddress, h⟩ :=
    Numeral.selfDelimiting_word.append_inj ((String.append_right_inj _).mp h)
  exact ⟨hopcode, haddress, hprefixed, h⟩

/-- The closing sentence as far as the reason alone says it. -/
def opening : Option HaltReason → String
  | none => " Running"
  | some .unknownOpcode => " Instruction "
  | some reason => " Halted (" ++ reason.name ++ ") after "

theorem selfDelimiting_opening : SelfDelimiting opening := by
  rintro (_ | x) (_ | y)
  · exact fun _ => rfl
  · cases y <;> decide
  · cases x <;> decide
  · cases x <;> cases y <;> decide

def ending : HaltReason → String
  | .unknownOpcode => " not recognized"
  | _ => ""

theorem closingSentence_eq (s : Snapshot) :
    s.closingSentence =
      opening s.reason ++ s.reason.elim "" fun reason => s.opcodePhrase ++ ending reason := by
  unfold closingSentence
  rcases s.reason with _ | _ | _ <;>
    simp only [opening, ending, Option.elim, String.append_assoc, String.append_empty]

theorem reason_eq (h : s.closingSentence = s'.closingSentence) : s.reason = s'.reason := by
  rw [closingSentence_eq, closingSentence_eq] at h
  exact (selfDelimiting_opening.append_inj h).1

theorem decoding_eq (h : s.closingSentence = s'.closingSentence) (hreason : s.reason ≠ none) :
    s.opcode = s'.opcode ∧ s.opcodeAddress = s'.opcodeAddress ∧ s.prefixed = s'.prefixed := by
  obtain ⟨reason, hs⟩ := Option.ne_none_iff_exists'.mp hreason
  have hs' : s'.reason = some reason := (reason_eq h).symm.trans hs
  rw [closingSentence_eq, closingSentence_eq, hs, hs', String.append_right_inj] at h
  obtain ⟨hopcode, haddress, hprefixed, -⟩ := opcodePhrase_inj h
  exact ⟨hopcode, haddress, hprefixed⟩

theorem table_inj (h : s.table = s'.table) :
    s.closingSentence = s'.closingSentence ∧
      s' = { s with
        reason := s'.reason, opcode := s'.opcode, opcodeAddress := s'.opcodeAddress,
        prefixed := s'.prefixed } := by
  unfold table at h
  simp only [String.append_assoc, String.append_right_inj] at h
  obtain ⟨ha, hf, h⟩ := registerLine_inj h
  obtain ⟨hb, hc, h⟩ := registerLine_inj h
  obtain ⟨hd, he, h⟩ := registerLine_inj h
  obtain ⟨hh, hl, h⟩ := registerLine_inj h
  obtain ⟨hzero, hsubtract, hhalf, hcarry, h⟩ := flagLine_inj h
  simp only [String.append_right_inj] at h
  obtain ⟨hsp, h⟩ := Numeral.selfDelimiting_word.append_inj h
  simp only [String.append_right_inj] at h
  obtain ⟨hpc, h⟩ := Numeral.selfDelimiting_word.append_inj h
  simp only [String.append_right_inj] at h
  obtain ⟨hexecuted, h⟩ := Numeral.decimal_line_inj h
  refine ⟨h, ?_⟩
  ext : 1 <;> simp only [*]

/-- Two tables are equal if and only if the snapshots are, the decoding state of a machine that runs
apart. -/
theorem table_eq_iff :
    s.table = s'.table ↔ s = s' ∨ s.reason = none ∧ ∃ opcode address prefixed,
      s' = { s with opcode := opcode, opcodeAddress := address, prefixed := prefixed } := by
  constructor
  · intro h
    obtain ⟨hclosing, hs'⟩ := table_inj h
    have hreason := reason_eq hclosing
    by_cases hnone : s.reason = none
    · refine .inr ⟨hnone, s'.opcode, s'.opcodeAddress, s'.prefixed, ?_⟩
      rw [← hreason] at hs'
      exact hs'
    · obtain ⟨hopcode, haddress, hprefixed⟩ := decoding_eq hclosing hnone
      rw [← hreason, ← hopcode, ← haddress, ← hprefixed] at hs'
      exact .inl hs'.symm
  · rintro (rfl | ⟨hnone, opcode, address, prefixed, rfl⟩)
    · rfl
    · unfold table flagLine
      rw [closingSentence_eq, closingSentence_eq, hnone]
      rfl

/-! ### The JSON object -/

theorem isPlain_fields (s : Snapshot) :
    ∀ m ∈ s.fields, Text.isPlain m.1 = true ∧ m.2.isPlain = true := by
  have hreason (r : Option HaltReason) : (reasonValue r).isPlain = true := by
    rcases r with _ | r
    · rfl
    · cases r <;> decide
  simp only [fields, List.forall_mem_cons, hreason, Scalar.isPlain_bool, Scalar.isPlain_number,
    and_true]
  decide

theorem comma_not_mem_of_isPlain {t : String} (h : Text.isPlain t = true) : ',' ∉ t.toList := by
  intro hcomma
  have hplain := List.all_eq_true.mp h ',' hcomma
  revert hplain
  decide

theorem comma_not_mem_line {name : String} {value : Scalar} (hname : Text.isPlain name = true)
    (hvalue : value.isPlain = true) : ',' ∉ (ObjectPrinter.line name value).toList := by
  have hprint : ',' ∉ value.print.toList := by
    cases value with
    | null => decide
    | bool b => cases b <;> decide
    | number n =>
      rw [Scalar.print, Numeral.decimal, String.toList_ofList]
      exact Numeral.not_mem_toDigits rfl n
    | text t => simp [Scalar.print, comma_not_mem_of_isPlain hvalue]
  simp [ObjectPrinter.line, comma_not_mem_of_isPlain hname, hprint]

@[simp] theorem print_number_inj {m n : Nat} :
    (Scalar.number m).print = (Scalar.number n).print ↔ m = n := Numeral.decimal_inj

@[simp] theorem print_bool_inj {b b' : Bool} :
    (Scalar.bool b).print = (Scalar.bool b').print ↔ b = b' := by
  cases b <;> cases b' <;> decide

@[simp] theorem print_reason_inj {r r' : Option HaltReason} :
    (reasonValue r).print = (reasonValue r').print ↔ r = r' := by
  rcases r with _ | r <;> rcases r' with _ | r'
  · exact iff_of_true rfl rfl
  · cases r' <;> decide
  · cases r <;> decide
  · cases r <;> cases r' <;> decide

def jsonLines (s : Snapshot) : List String :=
  s.fields.map fun (name, value) => ObjectPrinter.line name value

theorem jsonLines_inj (h : s.jsonLines = s'.jsonLines) : s = s' := by
  unfold jsonLines fields ObjectPrinter.line at h
  simp only [List.map_cons, List.cons.injEq, String.append_right_inj, print_number_inj,
    print_bool_inj, print_reason_inj, UInt8.toNat_inj, UInt16.toNat_inj] at h
  ext : 1 <;> simp only [h]

variable {print : ObjectPrinter}

theorem json_eq (hprint : print.Documented) (s : Snapshot) :
    s.json print = "\x7b\n" ++ String.intercalate ",\n" s.jsonLines ++ "\n\x7d" :=
  hprint.layout s.fields (List.cons_ne_nil _ _) s.isPlain_fields

theorem json_inj (hprint : print.Documented) (h : s.json print = s'.json print) : s = s' := by
  have hsep : ",\n".toList = [',', '\n'] := rfl
  rw [json_eq hprint, json_eq hprint, String.append_left_inj, String.append_right_inj,
    ← String.toList_inj, String.toList_intercalate, String.toList_intercalate, hsep] at h
  have hcomma (s : Snapshot) : ∀ cs ∈ s.jsonLines.map String.toList, ',' ∉ cs := by
    unfold jsonLines
    rw [List.map_map, List.forall_mem_map]
    exact fun m hm => comma_not_mem_line (s.isPlain_fields m hm).1 (s.isPlain_fields m hm).2
  have hlength : (s.jsonLines.map String.toList).length =
      (s'.jsonLines.map String.toList).length := by
    simp only [jsonLines, fields, List.map_cons, List.map_nil, List.length_cons]
  have hlines := Text.intercalate_inj (hcomma s) (hcomma s') hlength h
  exact jsonLines_inj (List.map_injective_iff.mpr (fun _ _ => String.toList_inj.mp) hlines)

/-- Reports lose nothing: two snapshots with the same JSON text are the same, and two with the same
table as well, except that the table of a machine that runs does not show its decoding state. -/
theorem reports_determine_snapshot (hprint : print.Documented) (s s' : Snapshot) :
    (s.json print = s'.json print ↔ s = s') ∧
    (s.table = s'.table ↔ s = s' ∨ s.reason = none ∧ ∃ opcode address prefixed,
      s' = { s with opcode := opcode, opcodeAddress := address, prefixed := prefixed }) :=
  ⟨⟨json_inj hprint, congrArg (json print)⟩, table_eq_iff⟩

/-- Two machines that run and differ in the opcode register: the object tells them apart, the table
does not. -/
theorem reports_determine_snapshot_running :
    let s := capture .postBoot none 0 0 false 0
    let s' := { s with opcode := 0xCB }
    s.json ObjectPrinter.pretty ≠ s'.json ObjectPrinter.pretty ∧ s.table = s'.table := by
  intro s s'
  have hprint : ObjectPrinter.Documented ObjectPrinter.pretty := ⟨fun _ _ _ => rfl⟩
  obtain ⟨hjson, htable⟩ := reports_determine_snapshot hprint s s'
  refine ⟨fun h => ?_, htable.mpr (.inr ⟨rfl, 0xCB, _, _, rfl⟩)⟩
  cases congrArg Snapshot.opcode (hjson.mp h)

end Snapshot

end Lr35902
