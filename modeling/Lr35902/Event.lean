import Lr35902.Fault
import Lr35902.Flags

/-!
# Events

What the machine reports while it works, and the line of the log that each event is. `Logged`
pairs a result with the events on the way to it.
-/

namespace Lr35902

inductive Event where
  /-- An instruction is about to be executed. -/
  | execute (address : UInt16) (opcode a f : UInt8)
  | haltedByFault (fault : Fault)
  | haltedByInstruction (reason : HaltReason) (pc : UInt16)
  | invalidFlagBit (flag : Flag) (bit : UInt8)
  | flagLookupFailed (error : FlagError)
  | flagUpdateIgnored (error : FlagError)
  | romLoaded (size : Nat) (title : String)
  deriving DecidableEq, Repr

/-- The event's level, text and fields. -/
def Event.line : Event → String
  | .execute address opcode a f =>
    "TRACE execute pc=" ++ Numeral.word address ++ " opcode=" ++ Numeral.byte opcode ++
      " a=" ++ Numeral.byte a ++ " f=" ++ Numeral.byte f
  | .haltedByFault fault => "ERROR cpu halted err=" ++ fault.message
  | .haltedByInstruction reason pc =>
    "ERROR cpu halted reason=" ++ reason.name ++ " pc=" ++ Numeral.word pc
  | .invalidFlagBit flag bit =>
    "WARN ignoring invalid flag bit flag=" ++ String.singleton flag.letter ++ " bit=" ++
      Numeral.decimal bit.toNat
  | .flagLookupFailed error => "WARN flag lookup failed err=" ++ error.message
  | .flagUpdateIgnored error => "WARN flag update ignored err=" ++ error.message
  | .romLoaded size title =>
    "INFO loaded ROM size=" ++ Numeral.decimal size ++ " title=" ++ title

structure Logged (α : Type) where
  value : α
  events : List Event

namespace Logged

def map {α β : Type} (f : α → β) (x : Logged α) : Logged β := ⟨f x.value, x.events⟩

/-- Goes on from a result; the events of what follows come after those before it. -/
def andThen {α β : Type} (x : Logged α) (f : α → Logged β) : Logged β :=
  let y := f x.value
  ⟨y.value, x.events ++ y.events⟩

instance : Monad Logged where
  pure a := ⟨a, []⟩
  bind := andThen

def report (e : Event) : Logged Unit := ⟨(), [e]⟩

@[simp] theorem value_andThen {α β : Type} (x : Logged α) (f : α → Logged β) :
    (x.andThen f).value = (f x.value).value := rfl

@[simp] theorem events_andThen {α β : Type} (x : Logged α) (f : α → Logged β) :
    (x.andThen f).events = x.events ++ (f x.value).events := rfl

end Logged

namespace Flags

/-- Sets a flag from a bit; a bit that is neither 0 nor 1 is reported. -/
def updateBit (f : Flags) (flag : Flag) (bit : UInt8) : Logged (Except FlagError Flags) :=
  match f.setBit flag bit with
  | .ok f' => ⟨.ok f', []⟩
  | .error e => ⟨.error e, [.invalidFlagBit flag bit]⟩

/-- The bit of the flag with the given letter; an unknown letter is reported and reads as 0. -/
def bitOfLetter (f : Flags) (letter : Char) : Logged UInt8 :=
  match Flag.ofLetter letter with
  | .ok flag => ⟨f.bit flag, []⟩
  | .error e => ⟨0, [.flagLookupFailed e]⟩

/-- Sets the flag with the given letter; an unknown letter or an invalid bit is reported. -/
def updateLetter (f : Flags) (letter : Char) (bit : UInt8) : Logged (Except FlagError Flags) :=
  match Flag.ofLetter letter with
  | .ok flag => f.updateBit flag bit
  | .error e => ⟨.error e, [.flagUpdateIgnored e]⟩

end Flags

end Lr35902
