import Lr35902.Host.Libraries
import Lr35902.Proofs.Numeral
import Lr35902.Proofs.Utf8

/-!
# The libraries of the executable

The libraries of the executable do what is documented of them. For the parser this is shown on the
reader that goes from word to word: after words that can be read it is ready for more
(`takeAll_append`), and what comes then is read as documented (`documented_parse`).
-/

namespace Lr35902

namespace OsString

theorem ofText_append (s t : String) : ofText (s ++ t) = ofText s ++ ofText t := by
  unfold ofText
  rw [Utf8.toList_toUTF8, Utf8.toList_toUTF8, Utf8.toList_toUTF8, String.toList_append,
    List.flatMap_append]

@[simp] theorem display_ofText (s : String) : (ofText s).display = s := by
  have hdecode : Utf8.decode (ofText s) = s.toList := by
    have happend := Utf8.decode_append s []
    rw [List.append_nil] at happend
    exact happend.trans (List.append_nil _)
  rw [display, hdecode, String.ofList_toList]

@[simp] theorem text?_ofText (s : String) : (ofText s).text? = some s := by
  rw [text?, display_ofText, if_pos rfl]

end OsString

namespace Host

theorem documented_judge : libraries.judge.Documented where
  level := by decide

theorem documented_print : libraries.print.Documented where
  layout _ _ _ := rfl

namespace Arguments

open Options

variable {r r' : Reader} {g : Given} {x : Gift} {slot : Slot} {name : String}
  {value word : OsString} {words : List OsString}

theorem equals_not_mem_option (h : x.option? = some name) :
    OsString.ofText name ≠ [] ∧ equals ∉ OsString.ofText name := by
  cases x <;> cases h <;> decide

theorem read_of_path {mk : OsString → Gift} (h : value = word ∧ word ≠ []) :
    (readPath value).map mk = .ok (mk word) := by
  obtain ⟨rfl, hne⟩ := h
  rw [readPath, if_neg hne]
  rfl

theorem read_of_steps {n : UInt64}
    (h : ∃ s, value = .ofText s ∧ Numeral.readUnsigned s.toList = some n.toNat) :
    readSteps value = .ok n := by
  obtain ⟨s, rfl, hread⟩ := h
  have htext : readText (.ofText s) = .ok s := by simp [readText]
  simp only [readSteps, htext, bind, Except.bind, hread, if_pos n.toNat_lt_size,
    UInt64.ofNat_toNat]

theorem exists_slot (hname : x.option? = some name) (hvalue : x.WrittenAs value) :
    ∃ slot : Slot, meanings.lookup (.ofText name) = some (.valued slot) ∧
      ∀ g : Given, g.Lacks x → assign g slot value = .ok (g.give x) := by
  have hassign {slot : Slot} (hread : slot.read value = .ok x)
      (hfree : ∀ g : Given, g.Lacks x → slot.isFilled g = false) (g : Given) (h : g.Lacks x) :
      assign g slot value = .ok (g.give x) := by
    rw [assign, hfree g h, hread]
    rfl
  cases x with
  | rom path => cases hname
  | maxSteps n =>
    cases hname
    refine ⟨.maxSteps, by decide, hassign ?_ fun g h => Option.isSome_eq_false_iff.mpr ?_⟩
    · rw [Slot.read, read_of_steps hvalue]
      rfl
    · exact Option.isNone_iff_eq_none.mpr h
  | log filter =>
    cases hname
    refine ⟨.log, by decide, hassign ?_ fun g h => Option.isSome_eq_false_iff.mpr ?_⟩
    · have htext : readText value = .ok filter := by
        rw [show value = .ofText filter from hvalue]
        simp [readText]
      rw [Slot.read, htext]
      rfl
    · exact Option.isNone_iff_eq_none.mpr h
  | dumpMemory path =>
    cases hname
    refine ⟨.dumpMemory, by decide, hassign (read_of_path hvalue) fun g h => ?_⟩
    exact Option.isSome_eq_false_iff.mpr (Option.isNone_iff_eq_none.mpr h)
  | dumpOpcodes path =>
    cases hname
    refine ⟨.dumpOpcodes, by decide, hassign (read_of_path hvalue) fun g h => ?_⟩
    exact Option.isSome_eq_false_iff.mpr (Option.isNone_iff_eq_none.mpr h)
  | trace | json | window => exact hvalue.elim

theorem lookup_switch (hname : x.option? = some name) (hx : x.isSwitch = true) :
    meanings.lookup (.ofText name) = some (.switch x) := by
  cases x <;> cases hname <;> first | decide | cases hx

/-! ### Words -/

theorem Form.ofWord_dashes {bytes : OsString} (hne : bytes ≠ []) :
    Form.ofWord (0x2D :: 0x2D :: bytes) =
      .long (bytes.takeWhile (· ≠ equals))
        (match bytes.dropWhile (· ≠ equals) with
          | [] => none
          | _ :: value => some value) := by
  cases bytes with
  | nil => exact absurd rfl hne
  | cons b bytes => rfl

theorem Form.ofWord_plain (h : ¬ Parser.Dashed word) : Form.ofWord word = .plain word := by
  unfold Parser.Dashed at h
  unfold Form.ofWord
  split <;> simp_all

theorem Form.eq_of_separator (h : Form.ofWord word = .separator) : word = Parser.separator := by
  unfold Form.ofWord at h
  split at h
  · rfl
  all_goals cases h

/-- The word of a long option: the first equals sign ends the name, whatever comes behind it. -/
theorem Form.ofWord_long {bytes rest : OsString} (hne : bytes ≠ []) (hname : equals ∉ bytes)
    (hrest : ∀ b ∈ rest.head?, b = equals) :
    Form.ofWord (0x2D :: 0x2D :: (bytes ++ rest)) =
      .long bytes (match rest with
        | [] => none
        | _ :: value => some value) := by
  have hall : ∀ b ∈ bytes, decide (b ≠ equals) = true := fun b hb =>
    decide_eq_true fun h => hname (h ▸ hb)
  rw [ofWord_dashes (by simp [hne]), List.takeWhile_append_of_pos hall,
    List.dropWhile_append_of_pos hall]
  cases rest with
  | nil => simp
  | cons b rest =>
    obtain rfl : b = equals := hrest b rfl
    simp

theorem Form.ofWord_option (h : x.option? = some name) :
    Form.ofWord (Parser.option name) = .long (.ofText name) none := by
  obtain ⟨hne, hequals⟩ := equals_not_mem_option h
  have hword : Parser.option name = 0x2D :: 0x2D :: (OsString.ofText name ++ []) := by
    rw [Parser.option, OsString.ofText_append, List.append_nil]
    rfl
  rw [hword, ofWord_long hne hequals (by simp)]

theorem Form.ofWord_joined (h : x.option? = some name) (value : OsString) :
    Form.ofWord (Parser.joined name value) = .long (.ofText name) (some value) := by
  obtain ⟨hne, hequals⟩ := equals_not_mem_option h
  have hword : Parser.joined name value =
      0x2D :: 0x2D :: (OsString.ofText name ++ equals :: value) := by
    rw [Parser.joined, OsString.ofText_append, OsString.ofText_append, List.append_assoc]
    rfl
  rw [hword, ofWord_long hne hequals (by simp)]

/-! ### Reading -/

namespace Reader

/-- A reader that nothing keeps from going on. -/
structure Ready (r : Reader) (g : Given) : Prop where
  settled : r.settled = .ok g
  optionsToo : r.operandsOnly = false

theorem takeAll_cons (h : r.take word = .ok r') (words : List OsString) :
    r.takeAll (word :: words) = r'.takeAll words := by
  rw [takeAll, h]
  rfl

theorem takeAll_cons_eq_ok :
    r.takeAll (word :: words) = .ok g ↔ ∃ r', r.take word = .ok r' ∧ r'.takeAll words = .ok g := by
  rw [takeAll]
  cases r.take word <;> simp [bind, Except.bind]

theorem operandsOnly_of_goOn {given : Except Halt Given} {pending : Option Pending}
    (h : r.goOn given pending = .ok r') : r'.operandsOnly = r.operandsOnly := by
  cases given <;> cases h
  rfl

/-- Only the separator keeps options from being read. -/
theorem operandsOnly_of_take (h : r.take word = .ok r') (hr : r.operandsOnly = false)
    (hword : word ≠ Parser.separator) : r'.operandsOnly = false := by
  rw [← hr]
  have hoperand {word : OsString} (h : r.takeOperand word = .ok r') :
      r'.operandsOnly = r.operandsOnly := by
    unfold takeOperand at h
    split at h
    · cases h
    · exact operandsOnly_of_goOn h
  rw [take, if_neg (Bool.eq_false_iff.mp hr)] at h
  split at h
  · rename_i hform
    exact absurd (Form.eq_of_separator hform) hword
  · unfold takeLong at h
    split at h <;> first | exact operandsOnly_of_goOn h | cases h
  · unfold takeShort at h
    split at h
    · exact operandsOnly_of_goOn h
    · split at h
      · exact operandsOnly_of_goOn h
      · cases h
  · split at h
    · exact operandsOnly_of_goOn h
    · exact hoperand h

/-- After words that can be read, the reader goes on from what they give. -/
theorem takeAll_append (hread : r.takeAll words = .ok g) (hr : r.operandsOnly = false)
    (hwords : Parser.separator ∉ words) :
    ∃ r' : Reader, r'.Ready g ∧ ∀ more, r.takeAll (words ++ more) = r'.takeAll more := by
  induction words generalizing r with
  | nil => exact ⟨r, ⟨hread, hr⟩, fun _ => rfl⟩
  | cons word words ih =>
    rw [List.mem_cons, not_or] at hwords
    obtain ⟨r₁, htake, hread⟩ := takeAll_cons_eq_ok.mp hread
    obtain ⟨r', hready, hmore⟩ :=
      ih hread (operandsOnly_of_take htake hr (Ne.symm hwords.1)) hwords.2
    exact ⟨r', hready, fun more => (takeAll_cons htake _).trans (hmore more)⟩

theorem rom_of_read (h : slot.read value = .ok x) :
    (g.give x).rom.isSome = (g.rom.isSome || slot = .rom) := by
  have hmap {α : Type} {given : Except Refusal α} {mk : α → Gift} (h : given.map mk = .ok x) :
      ∃ v, mk v = x := by
    cases given <;> cases h
    exact ⟨_, rfl⟩
  cases slot <;> obtain ⟨v, rfl⟩ := hmap h <;> simp [Given.give]

theorem rom_of_assign {g' : Given} (h : assign g slot value = .ok g') :
    g'.rom.isSome = (g.rom.isSome || slot = .rom) := by
  unfold assign at h
  split at h
  · cases h
  · split at h
    · rename_i x hread
      cases h
      exact rom_of_read hread
    · cases h

theorem hasOperand_eq (h : r.settled = .ok g) : r.hasOperand = g.rom.isSome := by
  unfold settled at h
  unfold hasOperand
  split at h
  · rename_i hpending
    cases h
    simp [hpending]
  · cases h
  · rename_i hpending
    simp [hpending, rom_of_assign h]

theorem takeOperand_of_lacks (h : r.settled = .ok g) (hrom : g.rom = none) (word : OsString) :
    r.takeOperand word = .ok { r with given := g, pending := some ⟨.rom, some word⟩ } := by
  have hseen : r.hasOperand = false := by
    rw [hasOperand_eq h, hrom]
    rfl
  rw [takeOperand, hseen, h]
  rfl

theorem settled_operand {path : OsString} (hrom : g.rom = none) (hpath : path ≠ []) {only : Bool} :
    settled { given := g, pending := some ⟨.rom, some path⟩, operandsOnly := only } =
      .ok (g.give (.rom path)) := by
  have hread : Slot.read path .rom = .ok (.rom path) := read_of_path ⟨rfl, hpath⟩
  show assign g .rom path = _
  rw [assign, hread, Slot.isFilled, hrom]
  rfl

namespace Ready

theorem take_long (hr : r.Ready g) {bytes : OsString} {value : Option OsString}
    (hform : Form.ofWord word = .long bytes value) : r.take word = r.takeLong bytes value := by
  rw [take, if_neg (Bool.eq_false_iff.mp hr.optionsToo), hform]

theorem take_joined (hr : r.Ready g) (hx : g.Lacks x) (hname : x.option? = some name)
    (hvalue : x.WrittenAs value) : r.takeAll [Parser.joined name value] = .ok (g.give x) := by
  obtain ⟨slot, hlookup, hassign⟩ := exists_slot hname hvalue
  have htake : r.take (Parser.joined name value) =
      .ok { r with given := g.give x, pending := none } := by
    rw [hr.take_long (Form.ofWord_joined hname value)]
    simp only [takeLong, hlookup, hr.settled, bind, Except.bind, hassign g hx]
    rfl
  rw [takeAll_cons htake]
  rfl

theorem take_apart (hr : r.Ready g) (hx : g.Lacks x) (hname : x.option? = some name)
    (hvalue : x.WrittenAs value) (hdash : ¬ Parser.Dashed value) :
    r.takeAll [Parser.option name, value] = .ok (g.give x) := by
  obtain ⟨slot, hlookup, hassign⟩ := exists_slot hname hvalue
  have hoption : r.take (Parser.option name) =
      .ok { r with given := g, pending := some ⟨slot, none⟩ } := by
    rw [hr.take_long (Form.ofWord_option hname)]
    simp only [takeLong, hlookup, hr.settled]
    rfl
  have htake : Reader.take { r with given := g, pending := some ⟨slot, none⟩ } value =
      .ok { r with given := g, pending := some ⟨slot, some value⟩ } := by
    rw [take, Form.ofWord_plain hdash]
    exact if_neg (Bool.eq_false_iff.mp hr.optionsToo)
  rw [takeAll_cons hoption, takeAll_cons htake]
  exact hassign g hx

theorem take_switch (hr : r.Ready g) (hx : g.Lacks x) (hname : x.option? = some name)
    (hswitch : x.isSwitch = true) : r.takeAll [Parser.option name] = .ok (g.give x) := by
  have htake : r.take (Parser.option name) =
      .ok { r with given := g.give x, pending := none } := by
    rw [hr.take_long (Form.ofWord_option hname)]
    simp only [takeLong, lookup_switch hname hswitch, hr.settled, bind, Except.bind, turnOn,
      if_pos hx]
    rfl
  rw [takeAll_cons htake]
  rfl

theorem take_operand (hr : r.Ready g) (hrom : g.rom = none) {path : OsString} (hpath : path ≠ [])
    (hdash : ¬ Parser.Dashed path) : r.takeAll [path] = .ok (g.give (.rom path)) := by
  -- No option waits for a value, or the reader would not be ready.
  have hpending (slot : Slot) : r.pending ≠ some ⟨slot, none⟩ := by
    intro hslot
    have hsettled := hr.settled
    unfold Reader.settled at hsettled
    rw [hslot] at hsettled
    cases hsettled
  have htake : r.take path = .ok { r with given := g, pending := some ⟨.rom, some path⟩ } := by
    rw [take, if_neg (Bool.eq_false_iff.mp hr.optionsToo), Form.ofWord_plain hdash]
    dsimp only
    split
    · rename_i slot hslot
      exact absurd hslot (hpending slot)
    · exact takeOperand_of_lacks hr.settled hrom path
  rw [takeAll_cons htake]
  exact settled_operand hrom hpath

theorem take_separated (hr : r.Ready g) (hrom : g.rom = none) {path : OsString}
    (hpath : path ≠ []) : r.takeAll [Parser.separator, path] = .ok (g.give (.rom path)) := by
  have hseparator : r.take Parser.separator = .ok { r with operandsOnly := true } := by
    rw [take, if_neg (Bool.eq_false_iff.mp hr.optionsToo)]
    rfl
  have htake : Reader.take { r with operandsOnly := true } path =
      .ok { given := g, pending := some ⟨.rom, some path⟩, operandsOnly := true } := by
    have hsettled : Reader.settled { r with operandsOnly := true } = .ok g := hr.settled
    rw [take, if_pos rfl]
    exact takeOperand_of_lacks hsettled hrom path
  rw [takeAll_cons hseparator, takeAll_cons htake]
  exact settled_operand hrom hpath

end Ready

end Reader

theorem parser_eq_ok : parser words = .ok g ↔ read words = .ok g := by
  unfold parser
  cases read words <;> simp [Except.mapError]

/-- What comes behind words that can be read is read by a reader that is ready. -/
theorem parser_append {phrase : List OsString} {g' : Given} (hwords : parser words = .ok g)
    (hsep : Parser.separator ∉ words)
    (hphrase : ∀ r : Reader, r.Ready g → r.takeAll phrase = .ok g') :
    parser (words ++ phrase) = .ok g' := by
  obtain ⟨r, hr, hmore⟩ := Reader.takeAll_append (parser_eq_ok.mp hwords) rfl hsep
  exact parser_eq_ok.mpr ((hmore phrase).trans (hphrase r hr))

end Arguments

theorem documented_parse : libraries.parse.Documented where
  nothing := rfl
  joined hwords hsep hx hname hvalue :=
    Arguments.parser_append hwords hsep fun _ hr => hr.take_joined hx hname hvalue
  apart hwords hsep hx hname hvalue hdash :=
    Arguments.parser_append hwords hsep fun _ hr => hr.take_apart hx hname hvalue hdash
  switch hwords hsep hx hname hswitch :=
    Arguments.parser_append hwords hsep fun _ hr => hr.take_switch hx hname hswitch
  operand hwords hsep hrom hpath hdash :=
    Arguments.parser_append hwords hsep fun _ hr => hr.take_operand hrom hpath hdash
  separated hwords hsep hrom hpath :=
    Arguments.parser_append hwords hsep fun _ hr => hr.take_separated hrom hpath

end Host

end Lr35902
