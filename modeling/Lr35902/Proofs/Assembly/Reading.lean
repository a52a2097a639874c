import Lr35902.Proofs.Assembly.Statement
import Lr35902.Proofs.Decoding
import Lr35902.Proofs.Fields

/-!
# Reading mnemonics

The mnemonic of every instruction reads back as a statement (`read_mnemonic`), which takes up as
many bytes as the instruction (`size_statement`). `Instr.statement` says which one it is.
-/

namespace Lr35902

/-! ### Instructions as statements -/

def Operand.place : Operand → Assembly.Place
  | .reg r => .reg r
  | .atHl => .mem .hl

def Pointer.place : Pointer → Assembly.Place
  | .bc => .mem .bc
  | .de => .mem .de
  | .hlUp => .mem .hlUp
  | .hlDown => .mem .hlDown

def CbInstr.bitOp : CbInstr → Assembly.BitOp
  | .shift op _ => .shift op
  | .test bit _ => .test bit
  | .reset bit _ => .reset bit
  | .set bit _ => .set bit

def CbInstr.target : CbInstr → Operand
  | .shift _ target | .test _ target | .reset _ target | .set _ target => target

def Instr.statement : Instr → Assembly.Statement
  | .nop => .nop
  | .stop => .stop
  | .halt => .halt
  | .disableInterrupts => .di
  | .enableInterrupts => .ei
  | .load target source => .ld target.place (.place source.place)
  | .loadImm target n => .ld target.place (.imm n)
  | .loadFrom p => .ld (.reg .a) (.place p.place)
  | .storeTo p => .ld p.place (.place (.reg .a))
  | .loadAt nn => .ld (.reg .a) (.place (.mem (.word nn)))
  | .storeAt nn => .ld (.mem (.word nn)) (.place (.reg .a))
  | .loadHigh n => .ld (.reg .a) (.place (.mem (.page n)))
  | .storeHigh n => .ld (.mem (.page n)) (.place (.reg .a))
  | .loadHighC => .ld (.reg .a) (.place (.mem .pageC))
  | .storeHighC => .ld (.mem .pageC) (.place (.reg .a))
  | .loadPair pair nn => .ldWord pair nn
  | .storeSp nn => .storeSp nn
  | .loadSpHl => .ldSpHl
  | .loadHlSp offset => .ldHlSp (Word.signed offset)
  | .addSp offset => .addSp (Word.signed offset)
  | .push pair => .push pair
  | .pop pair => .pop pair
  | .alu op source => .arith op (.place source.place)
  | .aluImm op n => .arith op (.imm n)
  | .inc target => .inc target.place
  | .dec target => .dec target.place
  | .incPair pair => .incWord pair
  | .decPair pair => .decWord pair
  | .addHl pair => .addHl pair
  | .rlca => .rotate .rlc
  | .rrca => .rotate .rrc
  | .rla => .rotate .rl
  | .rra => .rotate .rr
  | .daa => .daa
  | .cpl => .cpl
  | .scf => .scf
  | .ccf => .ccf
  | .jp nn => .jp none nn
  | .jpIf cc nn => .jp (some cc) nn
  | .jpHl => .jpHl
  | .jr offset => .jr none (Word.signed offset)
  | .jrIf cc offset => .jr (some cc) (Word.signed offset)
  | .call nn => .call none nn
  | .callIf cc nn => .call (some cc) nn
  | .ret => .ret none
  | .retIf cc => .ret (some cc)
  | .reti => .reti
  | .rst slot => .rst (UInt8.ofNat (8 * slot))
  | .cb i => .bits i.bitOp i.target.place
  | .illegal opcode => .db opcode

theorem Instr.size_statement (i : Instr) : i.statement.size = i.length := by
  cases i with
  | load target source => cases target <;> cases source <;> rfl
  | loadImm target n => cases target <;> rfl
  | loadFrom p => cases p <;> rfl
  | storeTo p => cases p <;> rfl
  | alu op source => cases source <;> rfl
  | inc target => cases target <;> rfl
  | dec target => cases target <;> rfl
  | _ => rfl

namespace Assembly

/-- Neither of the two characters that separate the parts of a statement. -/
structure IsToken (cs : List Char) : Prop where
  space : ' ' ∉ cs
  comma : ',' ∉ cs

instance (cs : List Char) : Decidable (IsToken cs) :=
  decidable_of_iff (' ' ∉ cs ∧ ',' ∉ cs) ⟨fun h => ⟨h.1, h.2⟩, fun h => ⟨h.space, h.comma⟩⟩

variable {s : String} {x y : List Char}

theorem IsToken.append (hx : IsToken x) (hy : IsToken y) : IsToken (x ++ y) where
  space := by simp [hx.space, hy.space]
  comma := by simp [hx.comma, hy.comma]

theorem isToken_of_isAlphanum (h : ∀ c ∈ x, c.isAlphanum = true) : IsToken x where
  space hc := absurd (h ' ' hc) (by decide)
  comma hc := absurd (h ',' hc) (by decide)

theorem read_unary (name : String) (h : s.toList = name.toList ++ ' ' :: x)
    (hn : IsToken name.toList) (hx : IsToken x) : read s = unary name x := by
  unfold read
  rw [h, Text.fields_append hn.space, Text.fields_of_not_mem hx.space]
  show withOperands (.ofList name.toList) x = _
  unfold withOperands
  rw [Text.fields_of_not_mem hx.comma, String.ofList_toList]

theorem read_binary (name : String) (h : s.toList = name.toList ++ ' ' :: (x ++ ',' :: y))
    (hn : IsToken name.toList) (hx : IsToken x) (hy : IsToken y) : read s = binary name x y := by
  have hxy : ' ' ∉ x ++ ',' :: y := by
    simp [hx.space, hy.space]
  unfold read
  rw [h, Text.fields_append hn.space, Text.fields_of_not_mem hxy]
  show withOperands (.ofList name.toList) (x ++ ',' :: y) = _
  unfold withOperands
  rw [Text.fields_append hx.comma, Text.fields_of_not_mem hy.comma, String.ofList_toList]

/-! ### Operands -/

theorem byte_toList (n : UInt8) :
    ∃ p q, (Numeral.byte n).toList = ['0', 'x', p, q] ∧
      Numeral.readHex 0 [p, q] = some n.toNat := by
  have hn : n.toNat % 16 ^ 2 = n.toNat := Nat.mod_eq_of_lt n.toNat_lt
  refine ⟨_, _, ?_, (Numeral.readHex_hexDigits 2 n.toNat).trans (congrArg some hn)⟩
  simp [Numeral.byte, Numeral.hex, Numeral.hexDigits]

theorem word_toList (nn : UInt16) :
    ∃ p q r t, (Numeral.word nn).toList = ['0', 'x', p, q, r, t] ∧
      Numeral.readHex 0 [p, q, r, t] = some nn.toNat := by
  have hn : nn.toNat % 16 ^ 4 = nn.toNat := Nat.mod_eq_of_lt nn.toNat_lt
  refine ⟨_, _, _, _, ?_, (Numeral.readHex_hexDigits 4 nn.toNat).trans (congrArg some hn)⟩
  simp [Numeral.word, Numeral.hex, Numeral.hexDigits]

theorem isToken_hex (width n : Nat) : IsToken (Numeral.hex width n).toList := by
  apply isToken_of_isAlphanum
  intro c hc
  rw [Numeral.hex, String.toList_ofList] at hc
  exact Numeral.isAlphanum_of_mem_hexDigits hc

theorem isToken_byte (n : UInt8) : IsToken (Numeral.byte n).toList := by
  rw [Numeral.byte, String.toList_append]
  exact IsToken.append (by decide) (isToken_hex 2 _)

theorem isToken_word (nn : UInt16) : IsToken (Numeral.word nn).toList := by
  rw [Numeral.word, String.toList_append]
  exact IsToken.append (by decide) (isToken_hex 4 _)

theorem isToken_decimal (n : Nat) : IsToken (Numeral.decimal n).toList := by
  apply isToken_of_isAlphanum
  intro c hc
  rw [Numeral.decimal, String.toList_ofList] at hc
  exact Numeral.isAlphanum_of_mem_toDigits hc

theorem isToken_offsetText (offset : UInt8) : IsToken (Instr.offsetText offset).toList := by
  unfold Instr.offsetText Numeral.signedDecimal
  split <;> rw [String.toList_append] <;> exact IsToken.append (by decide) (isToken_decimal _)

theorem byte?_byte (n : UInt8) : byte? (Numeral.byte n).toList = some n := by
  obtain ⟨p, q, hs, hv⟩ := byte_toList n
  rw [hs, byte?, hv, Option.map_some, UInt8.ofNat_toNat]

theorem word?_word (nn : UInt16) : word? (Numeral.word nn).toList = some nn := by
  obtain ⟨p, q, r, t, hs, hv⟩ := word_toList nn
  rw [hs, word?, hv, Option.map_some, UInt16.ofNat_toNat]

theorem operand?_byte (n : UInt8) : operand? (Numeral.byte n).toList = none := by
  obtain ⟨p, q, hs, -⟩ := byte_toList n
  rw [hs]
  rfl

theorem place?_byte (n : UInt8) : place? (Numeral.byte n).toList = none := by
  obtain ⟨p, q, hs, -⟩ := byte_toList n
  rw [hs]
  rfl

theorem withImm?_byte {place : List Char → Option Place} {n : UInt8}
    (h : place (Numeral.byte n).toList = none) :
    withImm? place (Numeral.byte n).toList = some (.imm n) := by
  unfold withImm?
  rw [h, byte?_byte]
  rfl

theorem withImm?_place {place : List Char → Option Place} {p : Place} (h : place x = some p) :
    withImm? place x = some (.place p) := by
  unfold withImm?
  rw [h]
  rfl

theorem location?_byte (n : UInt8) : location? (Numeral.byte n).toList = some (.page n) := by
  have hn := byte?_byte n
  obtain ⟨p, q, hs, -⟩ := byte_toList n
  rw [hs] at hn ⊢
  show ((byte? _).map Address.page <|> _) = _
  rw [hn]
  rfl

theorem location?_word (nn : UInt16) :
    location? (Numeral.word nn).toList = some (.word nn) := by
  have hn := word?_word nn
  obtain ⟨p, q, r, t, hs, -⟩ := word_toList nn
  rw [hs] at hn ⊢
  show (word? _).map Address.word = _
  rw [hn]
  rfl

theorem place?_parenthesised {a : Address} (h : location? x = some a) :
    place? ('(' :: (x ++ [')'])) = some (.mem a) := by
  have hx : parenthesised? ('(' :: (x ++ [')'])) = some x := by simp [parenthesised?]
  show (address? _).map Place.mem = _
  rw [address?, hx, Option.bind_some, h]
  rfl

theorem toList_decimal (n : Nat) : (Numeral.decimal n).toList = Nat.toDigits 10 n :=
  String.toList_ofList

theorem offset?_offsetText (offset : UInt8) :
    offset? (Instr.offsetText offset).toList = some (Word.signed offset) := by
  unfold Instr.offsetText Numeral.signedDecimal
  split
  · rw [String.toList_append, toList_decimal]
    show (Numeral.readDigits 0 (Nat.toDigits 10 _)).map (fun n => -Int.ofNat n) = _
    rw [Numeral.readDigits_toDigits, Option.map_some]
    exact congrArg some (by simp only [Int.ofNat_eq_natCast]; omega)
  · rw [String.toList_append, toList_decimal]
    show (Numeral.readDigits 0 (Nat.toDigits 10 _)).map Int.ofNat = _
    rw [Numeral.readDigits_toDigits, Option.map_some]
    exact congrArg some (by simp only [Int.ofNat_eq_natCast]; omega)

theorem bit?_decimal (b : Fin 8) : bit? (Numeral.decimal b).toList = some b := by
  unfold bit?
  rw [toList_decimal, Numeral.readDigits_toDigits]
  exact dif_pos b.isLt

theorem operand?_name (o : Operand) : operand? o.name.toList = some o.place := by
  cases o with
  | reg r => cases r <;> rfl
  | atHl => rfl

theorem place?_name (o : Operand) : place? o.name.toList = some o.place := by
  cases o with
  | reg r => cases r <;> rfl
  | atHl => rfl

theorem place?_pointer (p : Pointer) : place? p.name.toList = some p.place := by
  cases p <;> rfl

theorem pair?_name (pair : Reg16) : pair? pair.name.toList = some pair := by
  cases pair <;> rfl

theorem condition?_name (cc : Condition) : condition? cc.name.toList = some cc := by
  cases cc <;> rfl

theorem isToken_operand (o : Operand) : IsToken o.name.toList := by
  cases o with
  | reg r => cases r <;> decide
  | atHl => decide

theorem isToken_pointer (p : Pointer) : IsToken p.name.toList := by
  cases p <;> decide

theorem isToken_pair (pair : Reg16) : IsToken pair.name.toList := by
  cases pair <;> decide

theorem isToken_condition (cc : Condition) : IsToken cc.name.toList := by
  cases cc <;> decide

theorem isToken_parenthesised (h : IsToken x) : IsToken ('(' :: (x ++ [')'])) :=
  IsToken.append (x := ['(']) (by decide) (h.append (by decide))

/-! ### Statements -/

/-- Whether a load is called `LD` or `LDH` does not matter, since its operands tell. -/
theorem read_ld {name : String} {p : Place} {v : Source} (hname : name = "LD" ∨ name = "LDH")
    (h : s.toList = name.toList ++ ' ' :: (x ++ ',' :: y)) (tx : IsToken x) (ty : IsToken y)
    (hx : place? x = some p) (hy : source? y = some v) : read s = some (.ld p v) := by
  have hload : load x y = some (.ld p v) := by
    unfold load
    rw [hx, hy]
  rcases hname with rfl | rfl
  · exact (read_binary "LD" h (by decide) tx ty).trans hload
  · exact (read_binary "LDH" h (by decide) tx ty).trans hload

theorem load_pair (pair : Reg16) (nn : UInt16) :
    load pair.name.toList (Numeral.word nn).toList = some (.ldWord pair nn) := by
  have hn := word?_word nn
  obtain ⟨p, q, r, t, hs, -⟩ := word_toList nn
  rw [hs] at hn ⊢
  cases pair <;> exact congrArg (Option.map _) hn

theorem load_hl_sp {e : List Char} {offset : Int} (h : offset? e = some offset) :
    load ['H', 'L'] ('S' :: 'P' :: e) = some (.ldHlSp offset) :=
  congrArg (Option.map _) h

theorem load_sp {nn : UInt16} (h : place? x = some (.mem (.word nn))) :
    load x ['S', 'P'] = some (.storeSp nn) := by
  unfold load
  rw [h]
  rfl

theorem bind_map_some {α β γ : Type} {a? : Option α} {b? : Option β} {a : α} {b : β}
    (f : α → β → γ) (ha : a? = some a) (hb : b? = some b) :
    (a?.bind fun a => b?.map (f a)) = some (f a b) := by
  rw [ha, hb]
  rfl

theorem unary_jp (nn : UInt16) :
    unary "JP" (Numeral.word nn).toList = some (.jp none nn) := by
  have hn := word?_word nn
  obtain ⟨p, q, r, t, hs, -⟩ := word_toList nn
  rw [hs] at hn ⊢
  exact congrArg (Option.map _) hn

/-- Three of the eight arithmetic operations name the accumulator. -/
theorem read_arith (op : AluOp) {v : Source} (h : s.toList = op.opening.toList ++ x)
    (hx : IsToken x) (hv : term? x = some v) : read s = some (.arith op v) := by
  have two (name : String) (hs : s.toList = name.toList ++ ' ' :: (['A'] ++ ',' :: x))
      (hn : IsToken name.toList) : read s = binary name ['A'] x :=
    read_binary name hs hn (by decide) hx
  have one (name : String) (hs : s.toList = name.toList ++ ' ' :: x)
      (hn : IsToken name.toList) : read s = unary name x :=
    read_unary name hs hn hx
  cases op with
  | add => exact (two "ADD" h (by decide)).trans (congrArg (Option.map _) hv)
  | adc => exact (two "ADC" h (by decide)).trans (congrArg (Option.map _) hv)
  | sbc => exact (two "SBC" h (by decide)).trans (congrArg (Option.map _) hv)
  | sub => exact (one "SUB" h (by decide)).trans (congrArg (Option.map _) hv)
  | and => exact (one "AND" h (by decide)).trans (congrArg (Option.map _) hv)
  | xor => exact (one "XOR" h (by decide)).trans (congrArg (Option.map _) hv)
  | or => exact (one "OR" h (by decide)).trans (congrArg (Option.map _) hv)
  | cp => exact (one "CP" h (by decide)).trans (congrArg (Option.map _) hv)

end Assembly

open Assembly

theorem CbInstr.read_mnemonic (i : CbInstr) :
    read i.mnemonic = some (.bits i.bitOp i.target.place) := by
  cases i with
  | shift op target =>
    have h := operand?_name target
    rw [read_unary op.name (x := target.name.toList) (by simp [mnemonic])
      (by cases op <;> decide) (isToken_operand _)]
    cases op <;> exact congrArg (Option.map _) h
  | test bit target =>
    rw [read_binary "BIT" (x := (Numeral.decimal bit).toList) (y := target.name.toList)
      (by simp [mnemonic]) (by decide) (isToken_decimal _) (isToken_operand _)]
    exact bind_map_some (fun b => Statement.bits (.test b)) (bit?_decimal bit)
      (operand?_name target)
  | reset bit target =>
    rw [read_binary "RES" (x := (Numeral.decimal bit).toList) (y := target.name.toList)
      (by simp [mnemonic]) (by decide) (isToken_decimal _) (isToken_operand _)]
    exact bind_map_some (fun b => Statement.bits (.reset b)) (bit?_decimal bit)
      (operand?_name target)
  | set bit target =>
    rw [read_binary "SET" (x := (Numeral.decimal bit).toList) (y := target.name.toList)
      (by simp [mnemonic]) (by decide) (isToken_decimal _) (isToken_operand _)]
    exact bind_map_some (fun b => Statement.bits (.set b)) (bit?_decimal bit)
      (operand?_name target)

/-- The disassembler's text says what the instruction is. -/
theorem Instr.read_mnemonic (i : Instr) : read i.mnemonic = some i.statement := by
  cases i with
  | load target source =>
    exact read_ld (.inl rfl) (by simp [mnemonic]) (isToken_operand target)
      (isToken_operand source) (place?_name target) (withImm?_place (place?_name source))
  | loadImm target n =>
    exact read_ld (.inl rfl) (by simp [mnemonic]) (isToken_operand target) (isToken_byte n)
      (place?_name target) (withImm?_byte (place?_byte n))
  | loadFrom p =>
    exact read_ld (x := ['A']) (.inl rfl) (by simp [mnemonic]) (by decide) (isToken_pointer p)
      rfl (withImm?_place (place?_pointer p))
  | storeTo p =>
    exact read_ld (y := ['A']) (.inl rfl) (by simp [mnemonic]) (isToken_pointer p) (by decide)
      (place?_pointer p) rfl
  | loadAt nn =>
    exact read_ld (x := ['A']) (.inl rfl) (by simp [mnemonic]) (by decide)
      (isToken_parenthesised (isToken_word nn)) rfl
      (withImm?_place (place?_parenthesised (location?_word nn)))
  | storeAt nn =>
    exact read_ld (y := ['A']) (.inl rfl) (by simp [mnemonic])
      (isToken_parenthesised (isToken_word nn)) (by decide)
      (place?_parenthesised (location?_word nn)) rfl
  | loadHigh n =>
    exact read_ld (x := ['A']) (.inr rfl) (by simp [mnemonic]) (by decide)
      (isToken_parenthesised (isToken_byte n)) rfl
      (withImm?_place (place?_parenthesised (location?_byte n)))
  | storeHigh n =>
    exact read_ld (y := ['A']) (.inr rfl) (by simp [mnemonic])
      (isToken_parenthesised (isToken_byte n)) (by decide)
      (place?_parenthesised (location?_byte n)) rfl
  | loadPair pair nn =>
    rw [read_binary "LD" (x := pair.name.toList) (y := (Numeral.word nn).toList)
      (by simp [mnemonic]) (by decide) (isToken_pair _) (isToken_word nn)]
    exact load_pair pair nn
  | storeSp nn =>
    rw [read_binary "LD" (x := '(' :: ((Numeral.word nn).toList ++ [')'])) (y := ['S', 'P'])
      (by simp [mnemonic]) (by decide) (isToken_parenthesised (isToken_word nn)) (by decide)]
    exact load_sp (place?_parenthesised (location?_word nn))
  | loadHlSp offset =>
    rw [read_binary "LD" (x := ['H', 'L']) (y := 'S' :: 'P' :: (offsetText offset).toList)
      (by simp [mnemonic]) (by decide) (by decide)
      (IsToken.append (x := ['S', 'P']) (by decide) (isToken_offsetText offset))]
    exact load_hl_sp (offset?_offsetText offset)
  | addSp offset =>
    rw [read_binary "ADD" (x := ['S', 'P']) (y := (offsetText offset).toList)
      (by simp [mnemonic]) (by decide) (by decide) (isToken_offsetText offset)]
    exact congrArg (Option.map _) (offset?_offsetText offset)
  | push pair =>
    rw [read_unary "PUSH" (x := pair.name.toList) (by simp [mnemonic]) (by decide)
      (isToken_pair _)]
    exact congrArg (Option.map _) (pair?_name pair)
  | pop pair =>
    rw [read_unary "POP" (x := pair.name.toList) (by simp [mnemonic]) (by decide)
      (isToken_pair _)]
    exact congrArg (Option.map _) (pair?_name pair)
  | alu op source =>
    exact read_arith op (by simp [mnemonic]) (isToken_operand source)
      (withImm?_place (operand?_name source))
  | aluImm op n =>
    exact read_arith op (by simp [mnemonic]) (isToken_byte n) (withImm?_byte (operand?_byte n))
  | inc target =>
    rw [read_unary "INC" (x := target.name.toList) (by simp [mnemonic]) (by decide)
      (isToken_operand _)]
    exact congrArg (Option.map Statement.inc · <|> _) (operand?_name target)
  | dec target =>
    rw [read_unary "DEC" (x := target.name.toList) (by simp [mnemonic]) (by decide)
      (isToken_operand _)]
    exact congrArg (Option.map Statement.dec · <|> _) (operand?_name target)
  | incPair pair =>
    rw [read_unary "INC" (x := pair.name.toList) (by simp [mnemonic]) (by decide)
      (isToken_pair _)]
    cases pair <;> rfl
  | decPair pair =>
    rw [read_unary "DEC" (x := pair.name.toList) (by simp [mnemonic]) (by decide)
      (isToken_pair _)]
    cases pair <;> rfl
  | addHl pair =>
    rw [read_binary "ADD" (x := ['H', 'L']) (y := pair.name.toList) (by simp [mnemonic])
      (by decide) (by decide) (isToken_pair _)]
    exact congrArg (Option.map _) (pair?_name pair)
  | jp nn =>
    rw [read_unary "JP" (x := (Numeral.word nn).toList) (by simp [mnemonic]) (by decide)
      (isToken_word nn)]
    exact unary_jp nn
  | jpIf cc nn =>
    rw [read_binary "JP" (x := cc.name.toList) (y := (Numeral.word nn).toList)
      (by simp [mnemonic]) (by decide) (isToken_condition _) (isToken_word nn)]
    exact bind_map_some (fun cc => Statement.jp (some cc)) (condition?_name cc) (word?_word nn)
  | jr offset =>
    rw [read_unary "JR" (x := (offsetText offset).toList) (by simp [mnemonic]) (by decide)
      (isToken_offsetText offset)]
    exact congrArg (Option.map _) (offset?_offsetText offset)
  | jrIf cc offset =>
    rw [read_binary "JR" (x := cc.name.toList) (y := (offsetText offset).toList)
      (by simp [mnemonic]) (by decide) (isToken_condition _) (isToken_offsetText offset)]
    exact bind_map_some (fun cc => Statement.jr (some cc)) (condition?_name cc)
      (offset?_offsetText offset)
  | call nn =>
    rw [read_unary "CALL" (x := (Numeral.word nn).toList) (by simp [mnemonic]) (by decide)
      (isToken_word nn)]
    exact congrArg (Option.map _) (word?_word nn)
  | callIf cc nn =>
    rw [read_binary "CALL" (x := cc.name.toList) (y := (Numeral.word nn).toList)
      (by simp [mnemonic]) (by decide) (isToken_condition _) (isToken_word nn)]
    exact bind_map_some (fun cc => Statement.call (some cc)) (condition?_name cc) (word?_word nn)
  | retIf cc =>
    rw [read_unary "RET" (x := cc.name.toList) (by simp [mnemonic]) (by decide)
      (isToken_condition _)]
    exact congrArg (Option.map _) (condition?_name cc)
  | cb i => exact i.read_mnemonic
  | illegal opcode =>
    rw [read_unary "DB" (x := (Numeral.byte opcode).toList) (by simp [mnemonic]) (by decide)
      (isToken_byte _)]
    exact congrArg (Option.map _) (byte?_byte opcode)
  | rst slot =>
    have all : ∀ slot : Fin 8, read (mnemonic (.rst slot)) = some (statement (.rst slot)) := by
      decide
    exact all slot
  | nop | stop | halt | disableInterrupts | enableInterrupts | loadHighC | storeHighC | loadSpHl
  | rlca | rrca | rla | rra | daa | cpl | scf | ccf | jpHl | ret | reti => rfl

example : read "LDH (0x44),A" = some (.ld (.mem (.page 0x44)) (.place (.reg .a))) := rfl

end Lr35902
