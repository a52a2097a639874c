import Lr35902.Memory
import Lr35902.Text.Numeral

/-!
# Memory dump

The whole of memory as text: an entry for each cell in address order, thirty to a line.
-/

namespace Lr35902.MemoryDump

def entriesPerLine : Nat := 30

def entry (address : Nat) (v : UInt8) : String :=
  "0x" ++ Numeral.hex 5 address ++ "=>" ++ Numeral.byte v ++ ","

/-- The end of the line behind an entry, if it is the last of its line or of all. -/
def lineEnd (address : Nat) : String :=
  if (address + 1) % entriesPerLine = 0 ∨ address + 1 = 65536 then "\n" else ""

/-- The entries of consecutive cells, the first at `address`. -/
def entries (address : Nat) : List UInt8 → List String
  | [] => []
  | v :: vs => (entry address v ++ lineEnd address) :: entries (address + 1) vs

def text (m : Memory) : String := String.join (entries 0 m.toList)

end Lr35902.MemoryDump
