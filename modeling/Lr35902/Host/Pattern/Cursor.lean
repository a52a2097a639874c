import Lr35902.Text.Blank
import Lr35902.Host.Pattern.Error

/-!
# Places in a pattern

A cursor stands before what is left of a pattern, with the modes that are in force there.
-/

namespace Lr35902.Host.Pattern

/-- What flags in a pattern switch on and off. -/
structure Modes where
  /-- Blanks do not count, and comments are allowed. -/
  spaced : Bool := false
  ignoreCase : Bool := false
  /-- Characters are those of Unicode and not bytes. -/
  unicode : Bool := true
  deriving DecidableEq, Repr

structure Cursor where
  pos : Nat
  rest : List Char
  modes : Modes
  deriving DecidableEq, Repr

namespace Cursor

def ofPattern (pattern : List Char) : Cursor := ⟨0, pattern, {}⟩

def here (c : Cursor) : Span := ⟨c.pos, c.pos⟩

def head (c : Cursor) : Span := ⟨c.pos, c.pos + 1⟩

/-- What lies between an earlier place and this one. -/
def since (c : Cursor) (start : Nat) : Span := ⟨start, c.pos⟩

def drop (c : Cursor) (n : Nat) : Cursor :=
  { c with pos := c.pos + min n c.rest.length, rest := c.rest.drop n }

def advance (c : Cursor) : Cursor := c.drop 1

/-- How many characters of blanks and comments come next. A comment ends with its line. -/
def spaceLength (inComment : Bool) : List Char → Nat
  | [] => 0
  | c :: cs =>
    if inComment then spaceLength (c != '\n') cs + 1
    else if Text.isBlank c then spaceLength false cs + 1
    else if c = '#' then spaceLength true cs + 1
    else 0

/-- Goes on over blanks and comments where they do not count. -/
def skip (c : Cursor) : Cursor := if c.modes.spaced then c.drop (spaceLength false c.rest) else c

def next (c : Cursor) : Cursor := c.advance.skip

/-- The character behind the next one. Where blanks do not count it is sought behind them, and
behind one sign that begins a comment. -/
def peek? (c : Cursor) : Option Char :=
  let behind := c.rest.drop 1
  if c.modes.spaced then
    match behind.dropWhile Text.isBlank with
    | '#' :: comment => (comment.dropWhile Text.isBlank).head?
    | rest => rest.head?
  else behind.head?

/-- Goes on over at most `n` characters of a class, and over what does not count behind each. -/
def readUpTo (p : Char → Bool) : Nat → Cursor → List Char × Cursor
  | 0, c => ([], c)
  | n + 1, c =>
    match c.rest with
    | [] => ([], c)
    | x :: _ =>
      if p x then
        let (xs, c) := readUpTo p n c.next
        (x :: xs, c)
      else ([], c)

/-- Goes on over all characters of a class that come next. -/
def readWhile (c : Cursor) (p : Char → Bool) : List Char × Cursor := readUpTo p c.rest.length c

/-- Goes on over a text, if it comes next. -/
def past? (c : Cursor) (text : String) : Option Cursor :=
  if text.toList.isPrefixOf c.rest then some (c.drop text.length) else none

end Cursor

end Lr35902.Host.Pattern
