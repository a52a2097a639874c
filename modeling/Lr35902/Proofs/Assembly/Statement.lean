import Lr35902.Instr.Basic
import Lr35902.Proofs.Numeral
import Lr35902.Text.Fields

/-!
# Assembly statements

Assembly language on its own terms, with no reference to opcodes. A statement is a name and up to
two operands; `read` reads one, going by what is written and by nothing else. One operand syntax
serves all loads of bytes: a byte lies in a register or in memory at an address, and addresses are
written in eight ways. Other byte operations know registers and `(HL)` only.
-/

namespace Lr35902.Assembly

/-- How a byte of memory is addressed. -/
inductive Address where
  | bc | de | hl
  /-- `HL`, which moves up by one afterwards. -/
  | hlUp
  /-- `HL`, which moves down by one afterwards. -/
  | hlDown
  | word (nn : UInt16)
  /-- The address in the I/O page with that low byte. -/
  | page (n : UInt8)
  /-- The address in the I/O page with `C` for its low byte. -/
  | pageC
  deriving DecidableEq, Repr

/-- Where a byte can be written to. -/
inductive Place where
  | reg (r : Reg8)
  | mem (a : Address)
  deriving DecidableEq, Repr

/-- Where a byte can come from. -/
inductive Source where
  | place (p : Place)
  | imm (n : UInt8)
  deriving DecidableEq, Repr

/-- An operation on the bits of a byte. -/
inductive BitOp where
  | shift (op : ShiftOp)
  | test (bit : Fin 8)
  | reset (bit : Fin 8)
  | set (bit : Fin 8)
  deriving DecidableEq, Repr

/-- A jump, call or return without a condition has `none` for one. -/
inductive Statement where
  | nop | stop | halt | di | ei
  | ld (target : Place) (source : Source)
  | ldWord (pair : Reg16) (nn : UInt16)
  | ldSpHl
  | ldHlSp (offset : Int)
  | storeSp (nn : UInt16)
  | push (pair : Reg16)
  | pop (pair : Reg16)
  | arith (op : AluOp) (source : Source)
  | inc (p : Place)
  | dec (p : Place)
  | incWord (pair : Reg16)
  | decWord (pair : Reg16)
  | addHl (pair : Reg16)
  | addSp (offset : Int)
  /-- A rotation of the accumulator. -/
  | rotate (op : ShiftOp)
  | daa | cpl | scf | ccf
  | jp (cc : Option Condition) (nn : UInt16)
  | jpHl
  | jr (cc : Option Condition) (offset : Int)
  | call (cc : Option Condition) (nn : UInt16)
  | ret (cc : Option Condition)
  | reti
  | rst (target : UInt8)
  | bits (op : BitOp) (p : Place)
  /-- A byte that is no instruction. -/
  | db (n : UInt8)
  deriving DecidableEq, Repr

/-- How many bytes of an instruction an address takes up. -/
def Address.size : Address → Nat
  | .word _ => 2
  | .page _ => 1
  | _ => 0

def Place.size : Place → Nat
  | .reg _ => 0
  | .mem a => a.size

def Source.size : Source → Nat
  | .place p => p.size
  | .imm _ => 1

def Statement.size : Statement → Nat
  | .ld target source => 1 + target.size + source.size
  | .arith _ source => 1 + source.size
  | .inc p | .dec p => 1 + p.size
  | .stop | .ldHlSp _ | .addSp _ | .jr .. | .bits .. => 2
  | .ldWord .. | .storeSp _ | .jp .. | .call .. => 3
  | _ => 1

/-! ### Operands -/

def register? : List Char → Option Reg8
  | ['A'] => some .a
  | ['B'] => some .b
  | ['C'] => some .c
  | ['D'] => some .d
  | ['E'] => some .e
  | ['H'] => some .h
  | ['L'] => some .l
  | _ => none

def pair? : List Char → Option Reg16
  | ['A', 'F'] => some .af
  | ['B', 'C'] => some .bc
  | ['D', 'E'] => some .de
  | ['H', 'L'] => some .hl
  | ['S', 'P'] => some .sp
  | _ => none

def condition? : List Char → Option Condition
  | ['N', 'Z'] => some .notZero
  | ['Z'] => some .zero
  | ['N', 'C'] => some .notCarry
  | ['C'] => some .carry
  | _ => none

/-- A byte in two hexadecimal digits. -/
def byte? : List Char → Option UInt8
  | ['0', 'x', p, q] => (Numeral.readHex 0 [p, q]).map UInt8.ofNat
  | _ => none

def word? : List Char → Option UInt16
  | ['0', 'x', p, q, r, s] => (Numeral.readHex 0 [p, q, r, s]).map UInt16.ofNat
  | _ => none

/-- A decimal number behind its sign. -/
def offset? : List Char → Option Int
  | '+' :: ds => (Numeral.readDigits 0 ds).map Int.ofNat
  | '-' :: ds => (Numeral.readDigits 0 ds).map fun n => -Int.ofNat n
  | _ => none

def bit? (cs : List Char) : Option (Fin 8) :=
  (Numeral.readDigits 0 cs).bind fun n => if h : n < 8 then some ⟨n, h⟩ else none

/-- What stands between parentheses. -/
def parenthesised? : List Char → Option (List Char)
  | '(' :: cs => if cs.getLast? = some ')' then some cs.dropLast else none
  | _ => none

/-- The address that is written so between parentheses. -/
def location? : List Char → Option Address
  | ['B', 'C'] => some .bc
  | ['D', 'E'] => some .de
  | ['H', 'L'] => some .hl
  | ['H', 'L', '+'] => some .hlUp
  | ['H', 'L', '-'] => some .hlDown
  | ['C'] => some .pageC
  | cs => (byte? cs).map .page <|> (word? cs).map .word

def address? (cs : List Char) : Option Address := (parenthesised? cs).bind location?

def place? (cs : List Char) : Option Place :=
  (register? cs).map .reg <|> (address? cs).map .mem

/-- The operand of an arithmetic or bit operation, which can address memory only through `HL`. -/
def operand? (cs : List Char) : Option Place :=
  (register? cs).map .reg <|> if cs = ['(', 'H', 'L', ')'] then some (.mem .hl) else none

/-- A byte from a place, or one written out. -/
def withImm? (place : List Char → Option Place) (cs : List Char) : Option Source :=
  (place cs).map .place <|> (byte? cs).map .imm

/-- The second operand of an arithmetic operation. -/
def term? : List Char → Option Source := withImm? operand?

def source? : List Char → Option Source := withImm? place?

/-! ### Statements -/

def nullary (name : String) : Option Statement :=
  match name with
  | "NOP" => some .nop
  | "STOP" => some .stop
  | "HALT" => some .halt
  | "DI" => some .di
  | "EI" => some .ei
  | "RLCA" => some (.rotate .rlc)
  | "RRCA" => some (.rotate .rrc)
  | "RLA" => some (.rotate .rl)
  | "RRA" => some (.rotate .rr)
  | "DAA" => some .daa
  | "CPL" => some .cpl
  | "SCF" => some .scf
  | "CCF" => some .ccf
  | "RET" => some (.ret none)
  | "RETI" => some .reti
  | _ => none

def unary (name : String) (x : List Char) : Option Statement :=
  match name with
  | "PUSH" => (pair? x).map .push
  | "POP" => (pair? x).map .pop
  | "SUB" => (term? x).map (.arith .sub)
  | "AND" => (term? x).map (.arith .and)
  | "XOR" => (term? x).map (.arith .xor)
  | "OR" => (term? x).map (.arith .or)
  | "CP" => (term? x).map (.arith .cp)
  | "INC" => (operand? x).map .inc <|> (pair? x).map .incWord
  | "DEC" => (operand? x).map .dec <|> (pair? x).map .decWord
  | "JP" => if x = ['H', 'L'] then some .jpHl else (word? x).map (.jp none)
  | "JR" => (offset? x).map (.jr none)
  | "CALL" => (word? x).map (.call none)
  | "RET" => (condition? x).map fun cc => .ret (some cc)
  | "RST" => (byte? x).map .rst
  | "RLC" => (operand? x).map (.bits (.shift .rlc))
  | "RRC" => (operand? x).map (.bits (.shift .rrc))
  | "RL" => (operand? x).map (.bits (.shift .rl))
  | "RR" => (operand? x).map (.bits (.shift .rr))
  | "SLA" => (operand? x).map (.bits (.shift .sla))
  | "SRA" => (operand? x).map (.bits (.shift .sra))
  | "SWAP" => (operand? x).map (.bits (.shift .swap))
  | "SRL" => (operand? x).map (.bits (.shift .srl))
  | "DB" => (byte? x).map .db
  | _ => none

/-- `LD` of a byte if both operands can be bytes, of a word otherwise. -/
def load (x y : List Char) : Option Statement :=
  match place? x, source? y, pair? x with
  | some target, some source, _ => some (.ld target source)
  | some (.mem (.word nn)), none, _ => if y = ['S', 'P'] then some (.storeSp nn) else none
  | none, none, some pair =>
    match pair, y with
    | .sp, ['H', 'L'] => some .ldSpHl
    | .hl, 'S' :: 'P' :: e => (offset? e).map .ldHlSp
    | _, _ => (word? y).map (.ldWord pair)
  | _, _, _ => none

def add (x y : List Char) : Option Statement :=
  match x with
  | ['A'] => (term? y).map (.arith .add)
  | ['H', 'L'] => (pair? y).map .addHl
  | ['S', 'P'] => (offset? y).map .addSp
  | _ => none

def binary (name : String) (x y : List Char) : Option Statement :=
  match name with
  | "LD" | "LDH" => load x y
  | "ADD" => add x y
  | "ADC" => if x = ['A'] then (term? y).map (.arith .adc) else none
  | "SBC" => if x = ['A'] then (term? y).map (.arith .sbc) else none
  | "JP" => (condition? x).bind fun cc => (word? y).map (.jp (some cc))
  | "JR" => (condition? x).bind fun cc => (offset? y).map (.jr (some cc))
  | "CALL" => (condition? x).bind fun cc => (word? y).map (.call (some cc))
  | "BIT" => (bit? x).bind fun b => (operand? y).map (.bits (.test b))
  | "RES" => (bit? x).bind fun b => (operand? y).map (.bits (.reset b))
  | "SET" => (bit? x).bind fun b => (operand? y).map (.bits (.set b))
  | _ => none

/-- One operand, or two with a comma between them. -/
def withOperands (name : String) (operands : List Char) : Option Statement :=
  match Text.fields ',' operands with
  | [x] => unary name x
  | [x, y] => binary name x y
  | _ => none

/-- Reads a statement: its name, and behind a space its operands if it has any. -/
def read (text : String) : Option Statement :=
  match Text.fields ' ' text.toList with
  | [name] => nullary (.ofList name)
  | [name, operands] => withOperands (.ofList name) operands
  | _ => none

end Lr35902.Assembly
