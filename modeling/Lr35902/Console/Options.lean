import Lr35902.OsString
import Lr35902.Text.Numeral

/-!
# Command-line options

What a run of the program can be asked to do, what a command line gives to ask for it, and how
each of the things that it gives is named and written.
-/

namespace Lr35902

/-- What a run of the program is to do. -/
structure Options where
  rom : Option OsString
  maxSteps : Option UInt64
  logFilter : Option String
  json : Bool
  dumpMemory : Option OsString
  dumpOpcodes : Option OsString
  window : Bool
  deriving DecidableEq, Repr

namespace Options

def default : Options := ⟨none, none, none, false, none, none, false⟩

def logTarget : String := "gameboy_cpu"

/-- The filter that lets every event of the program through. -/
def traceFilter : String := logTarget ++ "=trace"

/-! ### What a command line gives -/

structure Given where
  rom : Option OsString := none
  maxSteps : Option UInt64 := none
  log : Option String := none
  dumpMemory : Option OsString := none
  dumpOpcodes : Option OsString := none
  trace : Bool := false
  json : Bool := false
  window : Bool := false
  deriving DecidableEq, Repr

/-- The options of what was given. A filter wins over the wish for a trace. -/
def ofGiven (g : Given) : Options where
  rom := g.rom
  maxSteps := g.maxSteps
  logFilter := g.log <|> if g.trace then some traceFilter else none
  json := g.json
  dumpMemory := g.dumpMemory
  dumpOpcodes := g.dumpOpcodes
  window := g.window

/-- One thing that can be given. -/
inductive Gift where
  | rom (path : OsString)
  | maxSteps (n : UInt64)
  | log (filter : String)
  | dumpMemory (path : OsString)
  | dumpOpcodes (path : OsString)
  | trace
  | json
  | window
  deriving DecidableEq, Repr

namespace Gift

/-- The name of the option that gives it. The cartridge is given by an operand. -/
def option? : Gift → Option String
  | .rom _ => none
  | .maxSteps _ => some "max-steps"
  | .log _ => some "log"
  | .dumpMemory _ => some "dump-memory"
  | .dumpOpcodes _ => some "dump-opcodes"
  | .trace => some "trace"
  | .json => some "json"
  | .window => some "window"

/-- Whether the option gives it by itself, without a value. -/
def isSwitch : Gift → Bool
  | .trace | .json | .window => true
  | _ => false

/-- The values that give it: a path that is not empty, a number in decimal, or text. -/
def WrittenAs : Gift → OsString → Prop
  | .rom path, value | .dumpMemory path, value | .dumpOpcodes path, value =>
    value = path ∧ path ≠ []
  | .maxSteps n, value =>
    ∃ s, value = .ofText s ∧ Numeral.readUnsigned s.toList = some n.toNat
  | .log filter, value => value = .ofText filter
  | .trace, _ | .json, _ | .window, _ => False

end Gift

namespace Given

/-- Nothing has been given for the same purpose. -/
def Lacks (g : Given) : Gift → Prop
  | .rom _ => g.rom = none
  | .maxSteps _ => g.maxSteps = none
  | .log _ => g.log = none
  | .dumpMemory _ => g.dumpMemory = none
  | .dumpOpcodes _ => g.dumpOpcodes = none
  | .trace => g.trace = false
  | .json => g.json = false
  | .window => g.window = false

instance (g : Given) : DecidablePred g.Lacks
  | .rom _ => inferInstanceAs (Decidable (g.rom = none))
  | .maxSteps _ => inferInstanceAs (Decidable (g.maxSteps = none))
  | .log _ => inferInstanceAs (Decidable (g.log = none))
  | .dumpMemory _ => inferInstanceAs (Decidable (g.dumpMemory = none))
  | .dumpOpcodes _ => inferInstanceAs (Decidable (g.dumpOpcodes = none))
  | .trace => inferInstanceAs (Decidable (g.trace = false))
  | .json => inferInstanceAs (Decidable (g.json = false))
  | .window => inferInstanceAs (Decidable (g.window = false))

/-- What has been given and one thing more. -/
def give (g : Given) : Gift → Given
  | .rom path => { g with rom := some path }
  | .maxSteps n => { g with maxSteps := some n }
  | .log filter => { g with log := some filter }
  | .dumpMemory path => { g with dumpMemory := some path }
  | .dumpOpcodes path => { g with dumpOpcodes := some path }
  | .trace => { g with trace := true }
  | .json => { g with json := true }
  | .window => { g with window := true }

end Given

end Options

end Lr35902
