import Lr35902.Instr.Opcode

/-!
# Decoding

From opcode and operand bytes to the instruction that a listing shows. Every opcode decodes: the
ones without a meaning become `Instr.illegal`.
-/

namespace Lr35902

def Pointer.ofBits : Nat → Pointer
  | 0 => .bc
  | 1 => .de
  | 2 => .hlUp
  | _ => .hlDown

def CbInstr.decode (op : UInt8) : CbInstr :=
  let target := Operand.ofBits (Opcode.lower op)
  let bit := Opcode.upper op
  match Opcode.block op with
  | 0 => .shift (ShiftOp.ofBits bit) target
  | 1 => .test bit target
  | 2 => .reset bit target
  | _ => .set bit target

namespace Instr

/-- The accumulator and flag operations, which share a column. -/
def ofFlagBits : Nat → Instr
  | 0 => .rlca
  | 1 => .rrca
  | 2 => .rla
  | 3 => .rra
  | 4 => .daa
  | 5 => .cpl
  | 6 => .scf
  | _ => .ccf

/-- Block 0: loads, increments and relative jumps, by upper and lower field. -/
def decodeBlock0 (y z : Nat) (n : UInt8) (nn : UInt16) : Instr :=
  match z, y % 2 with
  | 0, _ =>
    match y with
    | 0 => .nop
    | 1 => .storeSp nn
    | 2 => .stop
    | 3 => .jr n
    | _ => .jrIf (.ofBits y) n
  | 1, 0 => .loadPair (.ofBits (y / 2)) nn
  | 1, _ => .addHl (.ofBits (y / 2))
  | 2, 0 => .storeTo (.ofBits (y / 2))
  | 2, _ => .loadFrom (.ofBits (y / 2))
  | 3, 0 => .incPair (.ofBits (y / 2))
  | 3, _ => .decPair (.ofBits (y / 2))
  | 4, _ => .inc (.ofBits y)
  | 5, _ => .dec (.ofBits y)
  | 6, _ => .loadImm (.ofBits y) n
  | _, _ => ofFlagBits y

/-- Block 3: control transfer, the stack and what is left, by upper and lower field. -/
def decodeBlock3 (y : Fin 8) (z : Nat) (n : UInt8) (nn : UInt16) : Instr :=
  match z, y.val with
  | 0, 4 => .storeHigh n
  | 0, 5 => .addSp n
  | 0, 6 => .loadHigh n
  | 0, 7 => .loadHlSp n
  | 0, y => .retIf (.ofBits y)
  | 1, 1 => .ret
  | 1, 3 => .reti
  | 1, 5 => .jpHl
  | 1, 7 => .loadSpHl
  | 1, y => .pop (.ofStackBits (y / 2))
  | 2, 4 => .storeHighC
  | 2, 5 => .storeAt nn
  | 2, 6 => .loadHighC
  | 2, 7 => .loadAt nn
  | 2, y => .jpIf (.ofBits y) nn
  | 3, 0 => .jp nn
  | 3, 6 => .disableInterrupts
  | 3, _ => .enableInterrupts
  | 4, y => .callIf (.ofBits y) nn
  | 5, y => if y % 2 = 0 then .push (.ofStackBits (y / 2)) else .call nn
  | 6, y => .aluImm (.ofBits y) n
  | _, _ => .rst y

/-- The instruction with the given opcode, followed by the byte `n` and starting the word `nn`. -/
def decode (op n : UInt8) (nn : UInt16) : Instr :=
  let y := Opcode.upper op
  let z := Opcode.lower op
  if op = 0xCB then .cb (.decode n)
  else if Opcode.isUndefined op then .illegal op
  else
    match Opcode.block op with
    | 0 => decodeBlock0 y z n nn
    | 1 => if op = 0x76 then .halt else .load (.ofBits y) (.ofBits z)
    | 2 => .alu (.ofBits y) (.ofBits z)
    | _ => decodeBlock3 y z n nn

end Instr

end Lr35902
