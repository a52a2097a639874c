import Lr35902.Host.Pattern.Cursor

/-!
# Escapes

What a backslash and the characters behind it stand for. A pattern in a log filter has no closing
brace in it, since that would end the pattern. So an escape that goes on with an opening brace is
never complete.
-/

namespace Lr35902.Host.Pattern

/-- The smallest parts of a pattern. -/
inductive Atom where
  /-- A character, which may be written as a byte in hexadecimal. -/
  | literal (c : Char) (asByte : Bool)
  /-- One of the classes of digits, blanks and word characters, or what is not in it. -/
  | shorthand (negated : Bool)
  | property
  | boundary
  /-- The beginning or the end of the text. -/
  | anchor
  deriving DecidableEq, Repr

structure Placed where
  atom : Atom
  place : Span
  deriving DecidableEq, Repr

def hexValue? (c : Char) : Option Nat :=
  if c.isDigit then some (c.toNat - '0'.toNat)
  else if 'a' ≤ c ∧ c ≤ 'f' then some (c.toNat - 'a'.toNat + 10)
  else if 'A' ≤ c ∧ c ≤ 'F' then some (c.toNat - 'A'.toNat + 10)
  else none

/-- Reads `n` hexadecimal digits behind the value so far. -/
def hexDigits (value : Nat) : Nat → Cursor → Except Error (Nat × Cursor)
  | 0, c => .ok (value, c)
  | n + 1, c =>
    match c.rest with
    | [] => .error (Flaw.escapeIncomplete.on c.here)
    | digit :: _ =>
      match hexValue? digit with
      | none => .error (Flaw.hexDigitInvalid.on c.head)
      | some d => hexDigits (16 * value + d) n c.next

/-- What is wrong with hexadecimal digits in braces. -/
def bracedHexError (brace : Nat) : Nat → Cursor → Error
  | 0, c => Flaw.escapeIncomplete.on (c.since brace)
  | n + 1, c =>
    match c.rest with
    | [] => Flaw.escapeIncomplete.on (c.since brace)
    | digit :: _ =>
      if (hexValue? digit).isSome then bracedHexError brace n c.next
      else Flaw.hexDigitInvalid.on c.head

/-- A character by `width` hexadecimal digits. -/
def hexEscape (start width : Nat) (c : Cursor) : Except Error (Placed × Cursor) := do
  let digits := c.next
  match digits.rest with
  | '\x7b' :: _ => throw (bracedHexError digits.pos digits.rest.length digits.next)
  | _ =>
    let (value, c) ← hexDigits 0 width digits
    if value.isValidChar then
      return (⟨.literal (Char.ofNat value) (width = 2), c.since start⟩, c)
    else throw (Flaw.hexInvalid.on (c.since digits.pos))

def propertyEscape (start : Nat) (c : Cursor) : Except Error (Placed × Cursor) := do
  let name := c.next
  match name.rest with
  | [] => throw (Flaw.escapeIncomplete.on name.here)
  | '\x7b' :: _ => throw (Flaw.escapeIncomplete.on (name.drop name.rest.length).here)
  | '\\' :: _ => throw (Flaw.propertyInvalid.on name.head)
  | _ => return (⟨.property, name.next.since start⟩, name.next)

def isBoundaryLetter (c : Char) : Bool := c.isAlpha || c == '-'

/-- A boundary of words. A name in braces may follow, but no count is taken for one. -/
def boundaryEscape (start : Nat) (c : Cursor) : Except Error (Placed × Cursor) :=
  let plain := (⟨.boundary, c.since start⟩, c)
  match c.rest with
  | '\x7b' :: _ =>
    let name := c.next
    match name.rest with
    | [] => .error (Flaw.boundaryIncomplete.on (name.since start))
    | letter :: _ =>
      if isBoundaryLetter letter then
        .error (Flaw.boundaryUnclosed.on ((name.readWhile isBoundaryLetter).2.since c.pos))
      else .ok plain
  | _ => .ok plain

def controls : List (Char × Char) :=
  [('a', '\x07'), ('f', '\x0c'), ('t', '\t'), ('n', '\n'), ('r', '\r'), ('v', '\x0b')]

/-- Whether a character stands for itself behind a backslash. -/
def isEscapable (c : Char) : Bool := c.toNat < 128 && !c.isAlphanum && c != '<' && c != '>'

def escape (c : Cursor) : Except Error (Placed × Cursor) :=
  let start := c.pos
  let c := c.advance
  match c.rest with
  | [] => .error (Flaw.escapeIncomplete.on (c.since start))
  | letter :: _ =>
    let after := c.advance
    let place := after.since start
    if letter.isDigit then .error (Flaw.backreference.on place)
    else if letter = 'x' then hexEscape start 2 c
    else if letter = 'u' then hexEscape start 4 c
    else if letter = 'U' then hexEscape start 8 c
    else if letter = 'p' ∨ letter = 'P' then propertyEscape start c
    else if ['d', 's', 'w'].contains letter then .ok (⟨.shorthand false, place⟩, after)
    else if ['D', 'S', 'W'].contains letter then .ok (⟨.shorthand true, place⟩, after)
    else if isEscapable letter then .ok (⟨.literal letter false, place⟩, after)
    else if letter = 'b' then boundaryEscape start after
    else if ['B', '<', '>'].contains letter then .ok (⟨.boundary, place⟩, after)
    else if ['A', 'z'].contains letter then .ok (⟨.anchor, place⟩, after)
    else
      match controls.lookup letter with
      | some control => .ok (⟨.literal control false, place⟩, after)
      | none => .error (Flaw.escapeUnknown.on place)

end Lr35902.Host.Pattern
