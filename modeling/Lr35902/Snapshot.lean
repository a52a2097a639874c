import Lr35902.Fault
import Lr35902.Registers

/-!
# Snapshots

The registers, flags and decoding state of the processor at one instruction boundary, with the
reason if it has halted. A snapshot is plain data: its flag byte and its four flags, for example,
need not agree unless `capture` made it.
-/

namespace Lr35902

@[ext] structure Snapshot where
  reason : Option HaltReason
  a : UInt8
  f : UInt8
  zero : Bool
  subtract : Bool
  halfCarry : Bool
  carry : Bool
  b : UInt8
  c : UInt8
  d : UInt8
  e : UInt8
  h : UInt8
  l : UInt8
  sp : UInt16
  pc : UInt16
  /-- The last opcode fetched; of a two-byte opcode, the second byte. -/
  opcode : UInt8
  opcodeAddress : UInt16
  /-- Whether the opcode is the second byte of a two-byte one. -/
  prefixed : Bool
  /-- How many instructions have been completed. -/
  executed : Nat
  deriving DecidableEq, Repr

def Snapshot.capture (r : Registers) (reason : Option HaltReason) (opcode : UInt8)
    (opcodeAddress : UInt16) (prefixed : Bool) (executed : Nat) : Snapshot where
  reason := reason
  a := r.a
  f := r.flags.toByte
  zero := r.flags.zero
  subtract := r.flags.subtract
  halfCarry := r.flags.halfCarry
  carry := r.flags.carry
  b := r.b
  c := r.c
  d := r.d
  e := r.e
  h := r.h
  l := r.l
  sp := r.sp
  pc := r.pc
  opcode := opcode
  opcodeAddress := opcodeAddress
  prefixed := prefixed
  executed := executed

end Lr35902
