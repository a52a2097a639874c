import Lr35902.Word

/-!
# Memory

The flat 64 KiB address space. Every word is an address, so no access can miss; words in memory
have their low byte first and wrap round at the top.
-/

namespace Lr35902

@[ext] structure Memory where
  cells : Vector UInt8 65536
  deriving DecidableEq

namespace Memory

def blank : Memory := ⟨Vector.replicate 65536 0⟩

def read (m : Memory) (a : UInt16) : UInt8 := getElem m.cells a.toNat a.toNat_lt

def write (m : Memory) (a : UInt16) (v : UInt8) : Memory := ⟨m.cells.set a.toNat v a.toNat_lt⟩

/-- The word at `a` and the address after it. -/
def readWord (m : Memory) (a : UInt16) : UInt16 :=
  (m.read (a + 1)).toUInt16 <<< 8 ||| (m.read a).toUInt16

/-- Stores a word at `a` and the address after it. -/
def writeWord (m : Memory) (a : UInt16) (w : UInt16) : Memory :=
  (m.write a (Word.low w)).write (a + 1) (Word.high w)

/-- The address in the I/O page with the given low byte. -/
def ioAddress (offset : UInt8) : UInt16 := 0xFF00 + offset.toUInt16

/-- Copies bytes to `start` and up, dropping those past the end of memory. -/
def fill (m : Memory) (start : Nat) : List UInt8 → Memory
  | [] => m
  | b :: bs => if h : start < 65536 then fill ⟨m.cells.set start b h⟩ (start + 1) bs else m

/-- Copies bytes to `start` and up, dropping those past the end of memory. -/
def loadAt (m : Memory) (start : UInt16) (bytes : List UInt8) : Memory := m.fill start.toNat bytes

def clear (m : Memory) : Memory := ⟨m.cells.map fun _ => 0⟩

/-- Replaces all of memory: clears it and copies the bytes to address 0 and up. -/
def load (m : Memory) (bytes : List UInt8) : Memory := m.clear.fill 0 bytes

/-- Memory with the given bytes from address 0 up and zeros behind them. -/
def ofImage (bytes : List UInt8) : Memory := blank.fill 0 bytes

def toList (m : Memory) : List UInt8 := m.cells.toList

theorem read_write (m : Memory) (a b : UInt16) (v : UInt8) :
    (m.write a v).read b = if a = b then v else m.read b := by
  have h : (a.toNat = b.toNat) = (a = b) := propext UInt16.toNat_inj
  simp only [read, write, Vector.getElem_set, h]

@[simp] theorem read_write_self (m : Memory) (a : UInt16) (v : UInt8) :
    (m.write a v).read a = v := by
  simp [read_write]

theorem read_write_of_ne (m : Memory) {a b : UInt16} (v : UInt8) (h : a ≠ b) :
    (m.write a v).read b = m.read b := by
  simp [read_write, h]

@[simp] theorem read_blank (a : UInt16) : blank.read a = 0 := by
  simp [read, blank]

theorem write_comm (m : Memory) {a b : UInt16} (h : a ≠ b) (v w : UInt8) :
    (m.write a v).write b w = (m.write b w).write a v := by
  have hne : a.toNat ≠ b.toNat := fun hab => h (UInt16.toNat_inj.mp hab)
  unfold write
  rw [Vector.set_comm _ _ hne]

theorem readWord_eq (m : Memory) (a : UInt16) :
    m.readWord a = Word.ofBytes (m.read (a + 1)) (m.read a) :=
  Word.shiftLeft_or ..

/-- The low byte of a word comes first. -/
theorem toNat_readWord (m : Memory) (a : UInt16) :
    (m.readWord a).toNat = (m.read a).toNat + 256 * (m.read (a + 1)).toNat := by
  rw [readWord_eq, Word.toNat_ofBytes, Nat.add_comm]

/-- A word reads back where it was stored, also round the top of memory. -/
@[simp] theorem readWord_writeWord (m : Memory) (a w : UInt16) :
    (m.writeWord a w).readWord a = w := by
  have hne : a + 1 ≠ a := by grind
  rw [readWord_eq, writeWord, read_write_self, read_write_of_ne _ _ hne, read_write_self,
    Word.ofBytes_high_low]

end Memory

end Lr35902
