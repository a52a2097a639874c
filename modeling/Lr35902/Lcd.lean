import Lr35902.Memory
import Lr35902.Text.Numeral

/-!
# The LCD

The display looks on: programs set its registers by ordinary stores to the I/O page, and `sync`
picks them up from there. It owns the frame that a window would show.
-/

namespace Lr35902

structure LcdRegisters where
  lcdc : UInt8
  stat : UInt8
  scy : UInt8
  scx : UInt8
  ly : UInt8
  lyc : UInt8
  deriving DecidableEq, Repr

namespace LcdRegisters

def zero : LcdRegisters := ⟨0, 0, 0, 0, 0, 0⟩

/-- The registers as they lie in the I/O page. -/
def ofMemory (m : Memory) : LcdRegisters where
  lcdc := m.read (Memory.ioAddress 0x40)
  stat := m.read (Memory.ioAddress 0x41)
  scy := m.read (Memory.ioAddress 0x42)
  scx := m.read (Memory.ioAddress 0x43)
  ly := m.read (Memory.ioAddress 0x44)
  lyc := m.read (Memory.ioAddress 0x45)

def enabled (r : LcdRegisters) : Bool := r.lcdc.toNat.testBit 7

end LcdRegisters

structure Lcd where
  regs : LcdRegisters
  /-- The pixels, 160 to a line. -/
  frame : Vector UInt32 23040
  deriving DecidableEq

namespace Lcd

/-- The colour of an empty screen, the lightest of four greens. -/
def blankColour : UInt32 := 0x9BBC0F

def blankFrame : Vector UInt32 23040 := Vector.replicate 23040 blankColour

def fresh : Lcd := ⟨.zero, blankFrame⟩

/-- Picks up the registers. A display that is switched off goes blank. -/
def sync (lcd : Lcd) (m : Memory) : Lcd :=
  let regs := LcdRegisters.ofMemory m
  ⟨regs, if regs.enabled then lcd.frame else blankFrame⟩

/-- Colours one pixel; there is none past the end of the frame. -/
def setPixel (lcd : Lcd) (i : Nat) (colour : UInt32) : Lcd :=
  { lcd with frame := lcd.frame.setIfInBounds i colour }

def status (lcd : Lcd) : String :=
  let field (name : String) (v : UInt8) := name ++ "=" ++ Numeral.hex 2 v.toNat
  String.intercalate " "
    [field "LCDC" lcd.regs.lcdc, field "STAT" lcd.regs.stat, field "SCY" lcd.regs.scy,
      field "SCX" lcd.regs.scx, field "LY" lcd.regs.ly, field "LYC" lcd.regs.lyc]

end Lcd

end Lr35902
