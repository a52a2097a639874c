import Lr35902.Instr.Decode

/-!
# Mnemonics

Instructions in assembly language.
-/

namespace Lr35902

def Operand.name : Operand → String
  | .reg r => r.name
  | .atHl => "(HL)"

def Condition.name : Condition → String
  | .notZero => "NZ"
  | .zero => "Z"
  | .notCarry => "NC"
  | .carry => "C"

def Pointer.name : Pointer → String
  | .bc => "(BC)"
  | .de => "(DE)"
  | .hlUp => "(HL+)"
  | .hlDown => "(HL-)"

/-- The operation up to its source operand. Four of them name the accumulator. -/
def AluOp.opening : AluOp → String
  | .add => "ADD A,"
  | .adc => "ADC A,"
  | .sub => "SUB "
  | .sbc => "SBC A,"
  | .and => "AND "
  | .xor => "XOR "
  | .or => "OR "
  | .cp => "CP "

def ShiftOp.name : ShiftOp → String
  | .rlc => "RLC"
  | .rrc => "RRC"
  | .rl => "RL"
  | .rr => "RR"
  | .sla => "SLA"
  | .sra => "SRA"
  | .swap => "SWAP"
  | .srl => "SRL"

def CbInstr.mnemonic : CbInstr → String
  | .shift op target => op.name ++ " " ++ target.name
  | .test bit target => "BIT " ++ Numeral.decimal bit ++ "," ++ target.name
  | .reset bit target => "RES " ++ Numeral.decimal bit ++ "," ++ target.name
  | .set bit target => "SET " ++ Numeral.decimal bit ++ "," ++ target.name

namespace Instr

/-- An offset, always with its sign. -/
def offsetText (offset : UInt8) : String := Numeral.signedDecimal (Word.signed offset)

def mnemonic : Instr → String
  | .nop => "NOP"
  | .stop => "STOP"
  | .halt => "HALT"
  | .disableInterrupts => "DI"
  | .enableInterrupts => "EI"
  | .load target source => "LD " ++ target.name ++ "," ++ source.name
  | .loadImm target n => "LD " ++ target.name ++ "," ++ Numeral.byte n
  | .loadFrom p => "LD A," ++ p.name
  | .storeTo p => "LD " ++ p.name ++ ",A"
  | .loadAt nn => "LD A,(" ++ Numeral.word nn ++ ")"
  | .storeAt nn => "LD (" ++ Numeral.word nn ++ "),A"
  | .loadHigh n => "LDH A,(" ++ Numeral.byte n ++ ")"
  | .storeHigh n => "LDH (" ++ Numeral.byte n ++ "),A"
  | .loadHighC => "LD A,(C)"
  | .storeHighC => "LD (C),A"
  | .loadPair pair nn => "LD " ++ pair.name ++ "," ++ Numeral.word nn
  | .storeSp nn => "LD (" ++ Numeral.word nn ++ "),SP"
  | .loadSpHl => "LD SP,HL"
  | .loadHlSp offset => "LD HL,SP" ++ offsetText offset
  | .addSp offset => "ADD SP," ++ offsetText offset
  | .push pair => "PUSH " ++ pair.name
  | .pop pair => "POP " ++ pair.name
  | .alu op source => op.opening ++ source.name
  | .aluImm op n => op.opening ++ Numeral.byte n
  | .inc target => "INC " ++ target.name
  | .dec target => "DEC " ++ target.name
  | .incPair pair => "INC " ++ pair.name
  | .decPair pair => "DEC " ++ pair.name
  | .addHl pair => "ADD HL," ++ pair.name
  | .rlca => "RLCA"
  | .rrca => "RRCA"
  | .rla => "RLA"
  | .rra => "RRA"
  | .daa => "DAA"
  | .cpl => "CPL"
  | .scf => "SCF"
  | .ccf => "CCF"
  | .jp nn => "JP " ++ Numeral.word nn
  | .jpIf cc nn => "JP " ++ cc.name ++ "," ++ Numeral.word nn
  | .jpHl => "JP HL"
  | .jr offset => "JR " ++ offsetText offset
  | .jrIf cc offset => "JR " ++ cc.name ++ "," ++ offsetText offset
  | .call nn => "CALL " ++ Numeral.word nn
  | .callIf cc nn => "CALL " ++ cc.name ++ "," ++ Numeral.word nn
  | .ret => "RET"
  | .retIf cc => "RET " ++ cc.name
  | .reti => "RETI"
  | .rst slot => "RST 0x" ++ Numeral.hex 2 (8 * slot)
  | .cb i => i.mnemonic
  | .illegal opcode => "DB " ++ Numeral.byte opcode

end Instr

end Lr35902
