import Lr35902.Text.Numeral

/-!
# Faults and halt reasons

A fault is what keeps an instruction from being executed. Execution ends with a fault or with one
of the two halting instructions; the halt reason says which.
-/

namespace Lr35902

inductive HaltReason where
  | unknownOpcode
  | haltInstruction
  | stopInstruction
  | pcOverflow
  | stackOverflow
  | stackUnderflow
  deriving DecidableEq, Repr

namespace HaltReason

/-- The reason as it is written in running text. -/
def name : HaltReason → String
  | .unknownOpcode => "UnknownOpcode"
  | .haltInstruction => "HaltInstruction"
  | .stopInstruction => "StopInstruction"
  | .pcOverflow => "PcOverflow"
  | .stackOverflow => "StackOverflow"
  | .stackUnderflow => "StackUnderflow"

/-- The reason as it is written in structured output. -/
def code : HaltReason → String
  | .unknownOpcode => "unknown_opcode"
  | .haltInstruction => "halt_instruction"
  | .stopInstruction => "stop_instruction"
  | .pcOverflow => "pc_overflow"
  | .stackOverflow => "stack_overflow"
  | .stackUnderflow => "stack_underflow"

end HaltReason

inductive Fault where
  | unknownOpcode (opcode : UInt8) (address : UInt16) (prefixed : Bool)
  | pcOverflow (pc : UInt16)
  | stackOverflow (sp : UInt16)
  | stackUnderflow (sp : UInt16)
  deriving DecidableEq, Repr

namespace Fault

def reason : Fault → HaltReason
  | .unknownOpcode .. => .unknownOpcode
  | .pcOverflow _ => .pcOverflow
  | .stackOverflow _ => .stackOverflow
  | .stackUnderflow _ => .stackUnderflow

def message : Fault → String
  | .unknownOpcode opcode address prefixed =>
    "unrecognized opcode " ++ Numeral.byte opcode ++ (if prefixed then " (CB)" else "") ++ " at " ++
      Numeral.word address
  | .pcOverflow pc => "program counter ran past the end of memory at " ++ Numeral.word pc
  | .stackOverflow sp => "stack push below 0x0000 (SP=" ++ Numeral.word sp ++ ")"
  | .stackUnderflow sp => "stack pop past 0xFFFF (SP=" ++ Numeral.word sp ++ ")"

end Fault

end Lr35902
