import Lr35902.Instr.Mnemonic

/-!
# Disassembly and opcode listing

Memory read as instructions: at one address, or one instruction after the other from a start to
the end of memory. Operand bytes past the end read as zero. No control flow is followed, so data
is listed as if it were code.
-/

namespace Lr35902

/-- The byte at an address, zero past the end of memory. -/
def Memory.readOrZero (m : Memory) (a : Nat) : UInt8 :=
  if h : a < 65536 then getElem m.cells a h else 0

/-- The instruction at an address; operands past the end of memory are zero. -/
def Memory.instrAt (m : Memory) (a : Nat) : Instr :=
  let n := m.readOrZero (a + 1)
  .decode (m.readOrZero a) n (Word.ofBytes (m.readOrZero (a + 2)) n)

structure ListingLine where
  address : Nat
  opcode : UInt8
  /-- How many bytes the instruction takes up. -/
  length : Nat
  mnemonic : String
  deriving DecidableEq, Repr

def ListingLine.text (l : ListingLine) : String :=
  "0x" ++ Numeral.hex 5 l.address ++ "\t=> " ++ Numeral.byte l.opcode ++ "\t" ++ l.mnemonic ++ "\n"

namespace Memory

/-- The instruction at an address, as a line. -/
def disassemble (m : Memory) (a : Nat) : ListingLine where
  address := a
  opcode := m.readOrZero a
  length := Opcode.length (m.readOrZero a)
  mnemonic := (m.instrAt a).mnemonic

/-- The lines from an address to the end of memory. -/
def listing (m : Memory) (a : Nat) : List ListingLine :=
  if a < 65536 then m.disassemble a :: m.listing (a + Opcode.length (m.readOrZero a)) else []
termination_by 65536 - a
decreasing_by
  have := Opcode.length_pos (m.readOrZero a)
  omega

def listingText (m : Memory) (a : Nat) : String :=
  String.join ((m.listing a).map (·.text))

end Memory

end Lr35902
