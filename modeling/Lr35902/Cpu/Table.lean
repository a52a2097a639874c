import Lr35902.Instr.Opcode

/-!
# Opcode tables

A table has an entry for each opcode. It starts out with the same entry everywhere and is filled
in one group of opcodes after the other.
-/

namespace Lr35902

structure Table (α : Type) where
  entry : UInt8 → α

namespace Table

variable {α : Type}

def fill (a : α) : Table α := ⟨fun _ => a⟩

/-- Replaces the entries of the given opcodes. -/
def put (t : Table α) (opcodes : List Nat) (a : α) : Table α :=
  ⟨fun op => if opcodes.contains op.toNat then a else t.entry op⟩

def putRange (t : Table α) (first last : Nat) (a : α) : Table α :=
  ⟨fun op => if first ≤ op.toNat ∧ op.toNat ≤ last then a else t.entry op⟩

end Table

/-- The opcodes in one column of the rows from `base` up, eight to a row. -/
def Opcode.column (base column rows : Nat) : List Nat :=
  (List.range rows).map fun row => base + 8 * row + column

end Lr35902
