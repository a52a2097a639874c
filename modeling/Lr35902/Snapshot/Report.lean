import Lr35902.Json
import Lr35902.Snapshot

/-!
# Reports

A snapshot as a table for people and as a JSON object for programs. The table closes with one
sentence on how the machine stands; the object has every field in order.
-/

namespace Lr35902.Snapshot

/-! ### The table -/

def rule : String := "-------------------------\n"

/-- A line of the table with two byte registers. -/
def registerLine (left : String) (x : UInt8) (right : String) (y : UInt8) : String :=
  "|  " ++ left ++ ": " ++ Numeral.byte x ++ "   " ++ right ++ ": " ++ Numeral.byte y ++ "    |\n"

def flagLine (s : Snapshot) : String :=
  "|  Z:" ++ Numeral.bit s.zero ++ " N:" ++ Numeral.bit s.subtract ++ " H:" ++
    Numeral.bit s.halfCarry ++ " C:" ++ Numeral.bit s.carry ++ "       |\n"

/-- The opcode with the byte that introduces it, if any, and its address. -/
def opcodePhrase (s : Snapshot) : String :=
  (if s.prefixed then "0xCB " else "") ++ Numeral.byte s.opcode ++ " at " ++
    Numeral.word s.opcodeAddress

def closingSentence (s : Snapshot) : String :=
  match s.reason with
  | none => " Running"
  | some .unknownOpcode => " Instruction " ++ s.opcodePhrase ++ " not recognized"
  | some reason => " Halted (" ++ reason.name ++ ") after " ++ s.opcodePhrase

def table (s : Snapshot) : String :=
  rule ++ "|       REGISTERS       |\n" ++ rule ++
    registerLine "A" s.a "F" s.f ++ registerLine "B" s.b "C" s.c ++
    registerLine "D" s.d "E" s.e ++ registerLine "H" s.h "L" s.l ++
    s.flagLine ++ rule ++
    " SP: " ++ Numeral.word s.sp ++ "\n" ++
    " PC: " ++ Numeral.word s.pc ++ "\n" ++
    " Instructions executed: " ++ Numeral.decimal s.executed ++ "\n" ++
    s.closingSentence

/-! ### The JSON object -/

def reasonValue : Option HaltReason → Scalar
  | none => .null
  | some reason => .text reason.code

/-- The fields in order, as they are handed to a printer. -/
def fields (s : Snapshot) : List (String × Scalar) :=
  [("reason", reasonValue s.reason),
    ("a", .number s.a.toNat),
    ("f", .number s.f.toNat),
    ("zero", .bool s.zero),
    ("subtract", .bool s.subtract),
    ("half_carry", .bool s.halfCarry),
    ("carry", .bool s.carry),
    ("b", .number s.b.toNat),
    ("c", .number s.c.toNat),
    ("d", .number s.d.toNat),
    ("e", .number s.e.toNat),
    ("h", .number s.h.toNat),
    ("l", .number s.l.toNat),
    ("sp", .number s.sp.toNat),
    ("pc", .number s.pc.toNat),
    ("opcode", .number s.opcode.toNat),
    ("opcode_address", .number s.opcodeAddress.toNat),
    ("prefixed", .bool s.prefixed),
    ("executed", .number s.executed)]

def json (print : ObjectPrinter) (s : Snapshot) : String := print s.fields

end Lr35902.Snapshot
