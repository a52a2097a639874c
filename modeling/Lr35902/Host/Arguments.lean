import Lr35902.Console.Libraries

/-!
# Arguments

A parser of command lines. An option that takes a value has it in the same word, behind an equals
sign, or in the next; a value in a word of its own is judged only when the next option or operand,
or the end, shows that it is complete. Words that nothing answers to are refused as soon as they
are seen.
-/

namespace Lr35902.Host.Arguments

open Options

inductive Refusal where
  | missingValue
  | invalidNumber
  | invalidText
  | repeated
  | unwantedValue
  | unknownWord
  deriving DecidableEq, Repr

/-- What ends the reading of a command line early. -/
inductive Halt where
  | help
  | version
  | refused (r : Refusal)
  deriving DecidableEq, Repr

inductive Slot where
  | rom
  | maxSteps
  | log
  | dumpMemory
  | dumpOpcodes
  deriving DecidableEq, Repr

def readPath (value : OsString) : Except Refusal OsString :=
  if value = [] then .error .missingValue else .ok value

def readText (value : OsString) : Except Refusal String :=
  match value.text? with
  | some s => .ok s
  | none => .error .invalidText

/-- A number of steps fits into 64 bits. -/
def readSteps (value : OsString) : Except Refusal UInt64 := do
  match Numeral.readUnsigned (← readText value).toList with
  | some n => if n < UInt64.size then .ok (UInt64.ofNat n) else .error .invalidNumber
  | none => .error .invalidNumber

namespace Slot

def read (value : OsString) : Slot → Except Refusal Gift
  | .rom => (readPath value).map .rom
  | .maxSteps => (readSteps value).map .maxSteps
  | .log => (readText value).map .log
  | .dumpMemory => (readPath value).map .dumpMemory
  | .dumpOpcodes => (readPath value).map .dumpOpcodes

def isFilled (g : Given) : Slot → Bool
  | .rom => g.rom.isSome
  | .maxSteps => g.maxSteps.isSome
  | .log => g.log.isSome
  | .dumpMemory => g.dumpMemory.isSome
  | .dumpOpcodes => g.dumpOpcodes.isSome

end Slot

/-- Puts a value where nothing has been put before. -/
def assign (g : Given) (slot : Slot) (value : OsString) : Except Halt Given :=
  if slot.isFilled g then .error (.refused .repeated)
  else
    match slot.read value with
    | .ok x => .ok (g.give x)
    | .error r => .error (.refused r)

def turnOn (g : Given) (x : Gift) : Except Halt Given :=
  if g.Lacks x then .ok (g.give x) else .error (.refused .repeated)

/-! ### Words -/

/-- The forms that words take. -/
inductive Form where
  /-- The word behind which only operands follow. -/
  | separator
  | long (name : OsString) (value : Option OsString)
  | short (letter : UInt8)
  | plain (word : OsString)
  deriving DecidableEq, Repr

def equals : UInt8 := 0x3D

def Form.ofWord (word : OsString) : Form :=
  match word with
  | [0x2D, 0x2D] => .separator
  | 0x2D :: 0x2D :: bytes =>
    .long (bytes.takeWhile (· ≠ equals))
      (match bytes.dropWhile (· ≠ equals) with
        | [] => none
        | _ :: value => some value)
  | 0x2D :: letter :: _ => .short letter
  | _ => .plain word

/-- What an option's name stands for. -/
inductive Meaning where
  | valued (slot : Slot)
  | switch (x : Gift)
  | halt (h : Halt)
  deriving DecidableEq, Repr

def meanings : List (OsString × Meaning) :=
  [(.ofText "max-steps", .valued .maxSteps),
    (.ofText "log", .valued .log),
    (.ofText "dump-memory", .valued .dumpMemory),
    (.ofText "dump-opcodes", .valued .dumpOpcodes),
    (.ofText "trace", .switch .trace),
    (.ofText "json", .switch .json),
    (.ofText "window", .switch .window),
    (.ofText "help", .halt .help),
    (.ofText "version", .halt .version)]

/-! ### Reading a command line -/

/-- A slot that waits for its value, or for the proof that it is complete. -/
structure Pending where
  slot : Slot
  value : Option OsString
  deriving DecidableEq, Repr

structure Reader where
  given : Given := {}
  pending : Option Pending := none
  /-- Whether only operands follow. -/
  operandsOnly : Bool := false
  deriving DecidableEq, Repr

namespace Reader

def settled (r : Reader) : Except Halt Given :=
  match r.pending with
  | none => .ok r.given
  | some ⟨_, none⟩ => .error (.refused .missingValue)
  | some ⟨slot, some value⟩ => assign r.given slot value

/-- Goes on with what has been given by now and what is pending now. -/
def goOn (r : Reader) (given : Except Halt Given) (pending : Option Pending) :
    Except Halt Reader :=
  given.map fun g => { r with given := g, pending := pending }

/-- Whether the one operand there can be has been seen. -/
def hasOperand (r : Reader) : Bool :=
  r.given.rom.isSome || r.pending.any (·.slot = .rom)

def takeOperand (r : Reader) (word : OsString) : Except Halt Reader :=
  if r.hasOperand then .error (.refused .unknownWord)
  else r.goOn r.settled (some ⟨.rom, some word⟩)

def takeLong (r : Reader) (name : OsString) (value : Option OsString) : Except Halt Reader :=
  match meanings.lookup name, value with
  | none, _ => .error (.refused .unknownWord)
  | some (.valued slot), some value => r.goOn (do assign (← r.settled) slot value) none
  | some (.valued slot), none => r.goOn r.settled (some ⟨slot, none⟩)
  | some _, some _ => .error (.refused .unwantedValue)
  | some (.switch x), none => r.goOn (do turnOn (← r.settled) x) none
  | some (.halt h), none => r.goOn (r.settled >>= fun _ => .error h) none

/-- Letters behind the first are never reached: the first ends the reading. -/
def takeShort (r : Reader) (letter : UInt8) : Except Halt Reader :=
  if letter = 'h'.toUInt8 then r.goOn (r.settled >>= fun _ => .error .help) none
  else if letter = 'V'.toUInt8 then r.goOn (r.settled >>= fun _ => .error .version) none
  else .error (.refused .unknownWord)

def take (r : Reader) (word : OsString) : Except Halt Reader :=
  if r.operandsOnly then r.takeOperand word
  else
    match Form.ofWord word with
    | .separator => .ok { r with operandsOnly := true }
    | .long name value => r.takeLong name value
    | .short letter => r.takeShort letter
    | .plain word =>
      match r.pending with
      | some ⟨slot, none⟩ => r.goOn (.ok r.given) (some ⟨slot, some word⟩)
      | _ => r.takeOperand word

/-- Takes the words from left to right; the first that is refused decides. -/
def takeAll (r : Reader) : List OsString → Except Halt Given
  | [] => r.settled
  | w :: ws => do (← r.take w).takeAll ws

end Reader

def read (words : List OsString) : Except Halt Given := Reader.takeAll {} words

def usage : String := "Usage: gameboy_cpu [OPTIONS] [ROM]\n"

def helpText : String :=
  "Sharp LR35902 interpreter: runs a ROM image until it halts.\n\n" ++ usage ++ "\n" ++
    "Arguments:\n" ++
    "  [ROM]  ROM image to load at 0x0000\n\n" ++
    "Options:\n" ++
    "      --max-steps <N>        Stop after this many executed instructions\n" ++
    "      --trace                Log every executed instruction (PC, opcode, A, F)\n" ++
    "      --log <FILTER>         Tracing filter directive, e.g. \x60gameboy_cpu=debug\x60\n" ++
    "      --json                 Print the final snapshot as JSON instead of a table\n" ++
    "      --dump-memory <PATH>   Write a textual dump of all 64 KiB after loading\n" ++
    "      --dump-opcodes <PATH>  Write an opcode listing from the entry point after loading\n" ++
    "      --window               Present the display framebuffer in a window\n" ++
    "  -h, --help                 Print help\n" ++
    "  -V, --version              Print version\n"

def Refusal.message : Refusal → String
  | .missingValue => "one of the values isn't valid for an argument"
  | .invalidNumber => "invalid value for one of the arguments"
  | .invalidText => "invalid UTF-8 was detected in one or more arguments"
  | .repeated => "an argument cannot be used with one or more of the other specified arguments"
  | .unwantedValue => "unexpected value for an argument found"
  | .unknownWord => "unexpected argument found"

/-- How the parser stops, with the text that it shows. -/
def Halt.stop : Halt → Stop
  | .help => .shown helpText
  | .version => .shown "gameboy_cpu 1.0.0\n"
  | .refused r =>
    .refused ("error: " ++ r.message ++ "\n\n" ++ usage ++
      "\nFor more information, try '--help'.\n")

def parser : Parser := fun words => (read words).mapError Halt.stop

end Lr35902.Host.Arguments
