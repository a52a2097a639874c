import Lr35902.Event
import Lr35902.FileError
import Lr35902.Memory
import Lr35902.Text.Blank
import Lr35902.Text.Utf8

/-!
# Cartridges

The image of a cartridge: between one byte and a full address space of them. The header, if the
image is long enough to have one, holds a title and a type.
-/

namespace Lr35902

inductive CartridgeError where
  | unreadable (error : FileError)
  | empty
  | tooLarge (size : Nat)
  deriving DecidableEq, Repr

def CartridgeError.message : CartridgeError → String
  | .unreadable error => "failed to read ROM: " ++ error.message
  | .empty => "ROM image is empty"
  | .tooLarge size =>
    "ROM image is " ++ Numeral.decimal size ++ " bytes, larger than the 64 KiB address space"

structure Cartridge where
  bytes : List UInt8
  bytes_ne_nil : bytes ≠ []
  length_le : bytes.length ≤ 65536

namespace Cartridge

def ofBytes (bytes : List UInt8) : Except CartridgeError Cartridge :=
  if hne : bytes = [] then .error .empty
  else if hle : bytes.length ≤ 65536 then .ok ⟨bytes, hne, hle⟩
  else .error (.tooLarge bytes.length)

def size (c : Cartridge) : Nat := c.bytes.length

/-- The bytes of the header's title field. -/
def titleField (c : Cartridge) : List UInt8 := (c.bytes.drop 0x134).take 16

/-- The title in the header: the field as text, stripped of padding and then of blanks. -/
def title? (c : Cartridge) : Option String :=
  if 0x144 ≤ c.size then
    some (String.ofList
      (Text.strip Text.isBlank (Text.strip (· == '\x00') (Utf8.decode c.titleField))))
  else none

def kind? (c : Cartridge) : Option UInt8 := c.bytes[0x147]?

def memory (c : Cartridge) : Memory := .ofImage c.bytes

/-- Replaces all of memory by the cartridge. -/
def loadInto (c : Cartridge) (m : Memory) : Memory := m.load c.bytes

/-- The cartridge in what was read from a file; loading one is reported. -/
def ofFile (content : Except FileError (List UInt8)) : Logged (Except CartridgeError Cartridge) :=
  match content with
  | .error error => ⟨.error (.unreadable error), []⟩
  | .ok bytes =>
    match ofBytes bytes with
    | .error error => ⟨.error error, []⟩
    | .ok c => ⟨.ok c, [.romLoaded c.size (c.title?.getD "")]⟩

end Cartridge

end Lr35902
