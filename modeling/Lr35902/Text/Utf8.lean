/-!
# UTF-8

Decoding bytes of which not all need be UTF-8. Bytes that begin a character and cannot be
completed, as many as fit together, become one replacement character, and so does each byte that
begins none.
-/

namespace Lr35902.Utf8

def replacement : Char := '\uFFFD'

/-- A character that has begun: the bytes still owed, the range of the next of them, and the bits
collected so far. -/
structure Begun where
  owed : Nat
  low : UInt8
  high : UInt8
  bits : Nat
  deriving DecidableEq, Repr

/-- What a byte is at the start of a character. -/
inductive Start where
  | whole (c : Char)
  | begins (b : Begun)
  | invalid
  deriving DecidableEq, Repr

/-- The first byte fixes how many follow. The range of the second excludes the long forms of
characters that have shorter ones, surrogates, and what lies past the last character. -/
def start (b : UInt8) : Start :=
  let n := b.toNat
  if n < 0x80 then .whole (Char.ofNat n)
  else if n < 0xC2 then .invalid
  else if n < 0xE0 then .begins ⟨1, 0x80, 0xBF, n - 0xC0⟩
  else if n = 0xE0 then .begins ⟨2, 0xA0, 0xBF, 0⟩
  else if n = 0xED then .begins ⟨2, 0x80, 0x9F, 0xD⟩
  else if n < 0xF0 then .begins ⟨2, 0x80, 0xBF, n - 0xE0⟩
  else if n = 0xF0 then .begins ⟨3, 0x90, 0xBF, 0⟩
  else if n < 0xF4 then .begins ⟨3, 0x80, 0xBF, n - 0xF0⟩
  else if n = 0xF4 then .begins ⟨3, 0x80, 0x8F, 4⟩
  else .invalid

/-- Takes a byte where no character has begun. -/
def takeFirst (b : UInt8) : List Char × Option Begun :=
  match start b with
  | .whole c => ([c], none)
  | .begins p => ([], some p)
  | .invalid => ([replacement], none)

/-- Takes a byte: the characters it completes or gives up, and what has begun after it. -/
def takeByte (begun : Option Begun) (b : UInt8) : List Char × Option Begun :=
  match begun with
  | none => takeFirst b
  | some p =>
    if p.low ≤ b ∧ b ≤ p.high then
      let bits := p.bits * 64 + b.toNat % 64
      if p.owed ≤ 1 then ([Char.ofNat bits], none)
      else ([], some ⟨p.owed - 1, 0x80, 0xBF, bits⟩)
    else
      let (cs, begun) := takeFirst b
      (replacement :: cs, begun)

/-- Decodes bytes behind those of a begun character. -/
def decodeFrom (begun : Option Begun) : List UInt8 → List Char
  | [] => if begun.isSome then [replacement] else []
  | b :: bs => (takeByte begun b).1 ++ decodeFrom (takeByte begun b).2 bs

def decode (bytes : List UInt8) : List Char := decodeFrom none bytes

end Lr35902.Utf8
