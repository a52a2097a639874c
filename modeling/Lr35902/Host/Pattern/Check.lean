import Lr35902.Host.Pattern.Class
import Lr35902.Host.Pattern.Group

/-!
# Checking patterns

The first error in a regular expression, which is read from left to right. What is well formed
but nested too deep or not available counts only if the whole pattern is well formed.
-/

namespace Lr35902.Host.Pattern

/-- In how many others a part of a pattern may lie. -/
def maxDepth : Nat := 250

namespace Reader

/-- Reads what comes next outside classes. -/
def step (r : Reader) : Except Error Reader := do
  let c := r.cursor
  let single := r.push c.advance (.leaf c.head) true
  match c.rest with
  | [] => return r
  | '(' :: _ => r.openGroup
  | ')' :: _ => r.closeGroup
  | '|' :: _ => return r.alternate
  | '[' :: _ => r.openClass
  | '?' :: _ | '*' :: _ | '+' :: _ => r.repetition
  | '\x7b' :: _ => throw r.countError
  | '\\' :: _ =>
    let (a, c) ← escape c
    return (r.need a).push c (.leaf a.place) true
  | '.' :: _ => return if c.modes.unicode then single else single.lack .notUtf8 c.head
  | '^' :: _ | '$' :: _ => return single
  | l :: _ => return single.need ⟨.literal l false, c.head⟩

def finish (r : Reader) : Except Error Unit :=
  match r.classes, r.groups with
  | _ :: _, _ => .error r.classUnclosed
  | [], g :: _ => .error (Flaw.groupUnclosed.on g.place)
  | [], [] =>
    match (r.body.nest r.cursor.pos).beyond maxDepth, r.unavailable with
    | some place, _ => .error (Flaw.nestedTooDeep.on place)
    | none, some e => .error e
    | none, none => if r.hasBoundary then .error .wordBoundary else .ok ()

/-- Reads to the end of the pattern. Each step takes one character at least, so that as many steps
as there are characters are enough. -/
def run : Nat → Reader → Except Error Unit
  | 0, r => r.finish
  | n + 1, r =>
    let r := { r with cursor := r.cursor.skip }
    if r.cursor.rest = [] then r.finish
    else do run n (← if r.classes.isEmpty then r.step else r.classStep)

end Reader

def error? (pattern : List Char) : Option Error :=
  match Reader.run pattern.length (.ofPattern pattern) with
  | .ok () => none
  | .error e => some e

end Lr35902.Host.Pattern
