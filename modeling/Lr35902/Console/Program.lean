import Lr35902.Cartridge
import Lr35902.Console.Files
import Lr35902.Console.Libraries
import Lr35902.Cpu.Run
import Lr35902.Listing
import Lr35902.MemoryDump
import Lr35902.Snapshot.Report
import Lr35902.Text.Quoted

/-!
# The program

The command line as a whole: read the options, load a cartridge, write the dumps that are asked
for, run, and report how the machine stands. The steps come in this order, and the first that
fails ends the program.
-/

namespace Lr35902

inductive Failure where
  | invalidLogFilter (filter : String) (complaint : List String)
  | noCartridge
  | cartridgeNotLoaded (path : OsString) (error : CartridgeError)
  | fileNotCreated (path : OsString) (error : FileError)
  | noWindow
  deriving DecidableEq, Repr

namespace Failure

def message : Failure → String
  | .invalidLogFilter filter _ => "invalid log filter " ++ Text.quoted filter
  | .noCartridge => "no ROM given"
  | .cartridgeNotLoaded path _ => "failed to load ROM " ++ path.display
  | .fileNotCreated path _ => "failed to create " ++ path.display
  | .noWindow => "--window needs a build with the \x60window\x60 feature"

/-- What lies behind the failure, outermost first. -/
def causes : Failure → List String
  | .invalidLogFilter _ complaint => complaint
  | .noCartridge => []
  | .cartridgeNotLoaded _ error =>
    error.message :: match error with
      | .unreadable inner => [inner.message]
      | _ => []
  | .fileNotCreated _ error => [error.message]
  | .noWindow => []

/-- A text whose lines after the first begin with `n` blanks. -/
def indented (n : Nat) (text : String) : String :=
  String.ofList (text.toList.flatMap fun c =>
    if c = '\n' then c :: List.replicate n ' ' else [c])

def numbered (n : Nat) : List String → List String
  | [] => []
  | cause :: causes =>
    ("\n    " ++ Numeral.decimal n ++ ": " ++ indented 7 cause) :: numbered (n + 1) causes

/-- The failure and its causes; a single cause has no number. -/
def report (f : Failure) : String :=
  "Error: " ++ f.message ++
    match f.causes with
    | [] => ""
    | [cause] => "\n\nCaused by:\n    " ++ indented 4 cause
    | causes => "\n\nCaused by:" ++ String.join (numbered 0 causes)

end Failure

/-- How the program ends. -/
inductive Ending where
  | stopped (s : Stop)
  | failed (f : Failure)
  | reported (text : String)
  deriving DecidableEq, Repr

namespace Ending

def code : Ending → UInt32
  | .stopped (.shown _) | .reported _ => 0
  | .failed _ => 1
  | .stopped (.refused _) => 2

/-- What is written to standard output. -/
def output : Ending → String
  | .stopped (.shown text) => text
  | .reported text => text ++ "\n"
  | .stopped (.refused _) | .failed _ => ""

/-- What is written to standard error. -/
def complaint : Ending → String
  | .stopped (.refused text) => text
  | .failed f => f.report ++ "\n"
  | .stopped (.shown _) | .reported _ => ""

end Ending

namespace Program

variable {m : Type → Type} [Monad m] [FileSystem m] (lib : Libraries)

/-- Writes a dump, if there is a path for it. -/
def dump (path : Option OsString) (text : Unit → String) : ExceptT Ending m Unit := do
  if let some path := path then
    let written : m (Except FileError Unit) := FileSystem.write path (text ()).toUTF8
    if let .error e ← written then
      throw (.failed (.fileNotCreated path e))

/-- The cartridge in the file that the options name. -/
def cartridge (o : Options) : ExceptT Ending m Cartridge := do
  match o.rom with
  | none => throw (.failed .noCartridge)
  | some path =>
    let content : m (Except FileError ByteArray) := FileSystem.read path
    match (Cartridge.ofFile ((← content).map (·.data.toList))).value with
    | .ok c => return c
    | .error e => throw (.failed (.cartridgeNotLoaded path e))

/-- Everything before the run: the options, and a processor with the cartridge in its memory. -/
def prepare (words : List OsString) : ExceptT Ending m (Options × Cpu) := do
  let o ← match lib.options words with
    | .ok o => pure o
    | .error stop => throw (.stopped stop)
  if let some filter := o.logFilter then
    if let some complaint := lib.judge filter then
      throw (.failed (.invalidLogFilter filter complaint))
  let c ← cartridge o
  let cpu := Cpu.ofMemory c.memory
  dump o.dumpMemory fun _ => MemoryDump.text cpu.mem
  dump o.dumpOpcodes fun _ => cpu.mem.listingText cpu.regs.pc.toNat
  if o.window then
    throw (.failed .noWindow)
  return (o, cpu)

/-- How the machine stands after the run, in the form asked for. -/
def finish (o : Options) (cpu : Cpu) : Ending :=
  let snapshot := (cpu.run (o.maxSteps.map (·.toNat))).2.snapshot
  .reported (if o.json then snapshot.json lib.print else snapshot.table)

def run (words : List OsString) : m Ending := do
  match ← (prepare lib words : ExceptT Ending m (Options × Cpu)) with
  | .error ending => return ending
  | .ok (o, cpu) => return finish lib o cpu

end Program

end Lr35902
