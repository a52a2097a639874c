import Lr35902.Host.Pattern.Escape
import Lr35902.Host.Pattern.Nest

/-!
# Readers of patterns

What is known at a place in a pattern: the groups and classes that are open there, what has been
read in them, and what has been found to be well formed but not available. Tables of Unicode are
not available, and neither is a pattern that matches what is no text in UTF-8.
-/

namespace Lr35902.Host.Pattern

structure Branch where
  start : Nat
  /-- The parts, last first. -/
  parts : List Nest := []
  /-- Whether the last part can be repeated. -/
  repeatable : Bool := false

def Branch.nest (b : Branch) (stop : Nat) : Nest := .ofReversed ⟨b.start, stop⟩ b.parts

/-- What stands in a group, or the whole pattern. -/
structure Body where
  branch : Branch
  /-- Where the first branch begins, and the branches before this one, last first. -/
  earlier : Option (Nat × List Nest) := none

namespace Body

def ofStart (start : Nat) : Body := { branch := { start := start } }

def nest (b : Body) (stop : Nat) : Nest :=
  match b.earlier with
  | none => b.branch.nest stop
  | some (start, branches) => .node ⟨start, stop⟩ (b.branch.nest stop :: branches).reverse

def split (b : Body) (stop start : Nat) : Body where
  branch := { start := start }
  earlier :=
    match b.earlier with
    | none => some (b.branch.start, [b.branch.nest stop])
    | some (first, branches) => some (first, b.branch.nest stop :: branches)

def push (b : Body) (t : Nest) (repeatable : Bool) : Body :=
  { b with branch := { b.branch with parts := t :: b.branch.parts, repeatable := repeatable } }

end Body

structure OpenGroup where
  place : Span
  /-- The modes around the group. -/
  modes : Modes
  /-- What has been read around the group. -/
  outer : Body

/-- As much of a set of characters as decides whether its other cases have to be looked up. -/
inductive Content where
  | empty
  | full
  | other
  deriving DecidableEq, Repr

def Content.union : Content → Content → Content
  | .empty, b => b
  | a, .empty => a
  | .full, .full => .full
  | _, _ => .other

def Content.complement : Content → Content
  | .empty => .full
  | .full => .empty
  | .other => .other

inductive SetOp where
  | intersection
  | difference
  | symmetricDifference
  deriving DecidableEq, Repr

/-- The sets that are empty or full, combined. -/
def SetOp.apply : SetOp → Content → Content → Content
  | _, .other, _ => .other
  | _, _, .other => .other
  | .intersection, .full, .full => .full
  | .difference, .full, .empty => .full
  | .symmetricDifference, .full, .empty => .full
  | .symmetricDifference, .empty, .full => .full
  | _, _, _ => .empty

/-- A part of a class, with what it contains. -/
structure Operand where
  nest : Nest
  content : Content

/-- Members of a class that follow one another. -/
structure Members where
  start : Nat
  /-- The members, last first. -/
  parts : List Nest := []
  content : Content := .empty

namespace Members

def push (ms : Members) (t : Nest) (content : Content) : Members :=
  { ms with parts := t :: ms.parts, content := ms.content.union content }

/-- The members as one part, which begins with the first and ends with the last. -/
def operand (ms : Members) : Operand where
  nest :=
    match ms.parts.getLast?, ms.parts.head? with
    | some first, some last => .ofReversed ⟨first.place.start, last.place.stop⟩ ms.parts
    | _, _ => .leaf ⟨ms.start, ms.start⟩
  content := ms.content

end Members

structure OpenClass where
  place : Span
  negated : Bool
  members : Members
  /-- What is combined with the members, and how. -/
  left : Option (Operand × SetOp) := none

structure Reader where
  cursor : Cursor
  body : Body
  /-- The open groups, innermost first. -/
  groups : List OpenGroup := []
  /-- The open classes, innermost first. -/
  classes : List OpenClass := []
  /-- The names of groups, with their places. -/
  names : List (List Char × Span) := []
  /-- The first thing that is not available. -/
  unavailable : Option Error := none
  /-- Whether there is a boundary of words as Unicode knows them. -/
  hasBoundary : Bool := false

namespace Reader

def ofPattern (pattern : List Char) : Reader where
  cursor := .ofPattern pattern
  body := .ofStart 0

/-- Takes note of something that is not available. -/
def lack (r : Reader) (flaw : Flaw) (place : Span) : Reader :=
  { r with unavailable := r.unavailable <|> some (flaw.on place) }

/-- Whether the cases of a character have to be looked up. -/
def folds (r : Reader) : Bool := r.cursor.modes.unicode && r.cursor.modes.ignoreCase

/-- Takes note of what an atom needs, inside a class or outside. -/
def need (r : Reader) (a : Placed) : Reader :=
  let inClass := !r.classes.isEmpty
  let unicode := r.cursor.modes.unicode
  match a.atom with
  | .literal c asByte =>
    if unicode then
      if r.folds && !inClass then r.lack .caseUnknown a.place else r
    else if c.toNat < 128 then r
    else if asByte then r.lack .notUtf8 a.place
    else if inClass then r.lack .notAscii a.place
    else r
  | .shorthand negated =>
    if unicode then r.lack .classUnknown a.place
    else if negated then r.lack .notUtf8 a.place
    else r
  | .property => r.lack (if unicode then .propertyUnknown else .notAscii) a.place
  | .boundary => { r with hasBoundary := r.hasBoundary || unicode }
  | .anchor => r

/-- Goes on from a cursor, behind a part of the pattern. -/
def push (r : Reader) (c : Cursor) (t : Nest) (repeatable : Bool) : Reader :=
  { r with cursor := c, body := r.body.push t repeatable }

end Reader

end Lr35902.Host.Pattern
