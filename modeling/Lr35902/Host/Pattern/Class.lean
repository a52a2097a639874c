import Lr35902.Host.Pattern.Reader

/-!
# Classes of characters in brackets

A class has members one after another: characters, ranges, escapes, named classes, and classes
again. Sets of members can be combined by signs between them, from left to right.
-/

namespace Lr35902.Host.Pattern

/-- Goes on over minus signs, unless the pattern ends with them. -/
def skipDashes (members : List Nest) : Nat → Cursor → Option (List Nest × Cursor)
  | 0, c => some (members, c)
  | n + 1, c =>
    match c.rest with
    | '-' :: _ =>
      if c.next.rest = [] then none else skipDashes (.leaf c.head :: members) n c.next
    | _ => some (members, c)

/-- A member of a class, which may begin a range. -/
def classMember (c : Cursor) : Except Error (Placed × Cursor) :=
  match c.rest with
  | '\\' :: _ => escape c
  | m :: _ => .ok (⟨.literal m false, c.head⟩, c.advance)
  | [] => .error (Flaw.classUnclosed.on c.here)

def rangeBound (a : Placed) : Except Error Char :=
  match a.atom with
  | .literal c _ => .ok c
  | _ => .error (Flaw.classRangeMember.on a.place)

def classNames : List String :=
  ["alnum", "alpha", "ascii", "blank", "cntrl", "digit", "graph", "lower", "print", "punct",
    "space", "upper", "word", "xdigit"]

def setOp? : List Char → Option SetOp
  | '&' :: '&' :: _ => some .intersection
  | '-' :: '-' :: _ => some .difference
  | '~' :: '~' :: _ => some .symmetricDifference
  | _ => none

namespace Reader

/-- Goes on from a cursor, behind a member of the innermost class. -/
def pushMember (r : Reader) (c : Cursor) (t : Nest) (content : Content) : Reader :=
  { r with
    cursor := c
    classes := r.classes.modifyHead fun k => { k with members := k.members.push t content } }

def classUnclosed (r : Reader) : Error :=
  Flaw.classUnclosed.on ((r.classes.head?.map (·.place)).getD r.cursor.here)

/-- Reads a member or a range. -/
def classRange (r : Reader) : Except Error Reader := do
  let (first, c) ← classMember r.cursor
  let c := c.skip
  let alone : Except Error Reader :=
    match first.atom with
    | .boundary | .anchor => .error (Flaw.classWrongMember.on first.place)
    | _ => .ok ((r.need first).pushMember c (.leaf first.place) .other)
  match c.rest with
  | [] => throw r.classUnclosed
  | '-' :: _ =>
    if c.peek? = some ']' ∨ c.peek? = some '-' then alone
    else if c.next.rest = [] then throw r.classUnclosed
    else
      let (second, c) ← classMember c.next
      let low ← rangeBound first
      let high ← rangeBound second
      let place : Span := ⟨first.place.start, second.place.stop⟩
      if high < low then
        throw (Flaw.classRangeEmpty.on place)
      return ((r.need first).need second).pushMember c (.leaf place) .other
  | _ => alone

/-- Reads a class by its name, if there is one: the name stands between colons in brackets, behind
a caret if what is not in the class is meant. -/
def namedClass? (r : Reader) : Option Reader := do
  let c ← r.cursor.past? "[:"
  let name := (c.past? "^").getD c
  let letters := name.rest.takeWhile (· ≠ ':')
  let stop ← (name.drop letters.length).past? ":]"
  if classNames.contains (String.ofList letters) then
    let place := stop.since r.cursor.pos
    let negated := name.pos != c.pos
    let r :=
      if r.folds then r.lack .caseUnknown place
      else if negated && !c.modes.unicode then r.lack .notUtf8 place
      else r
    some (r.pushMember stop (.leaf place) .other)
  else none

/-- The members of a class, combined with what stands before them. Both have to be known in all
their cases for that. -/
def combine (r : Reader) (k : OpenClass) : Operand × Reader :=
  let right := k.members.operand
  match k.left with
  | none => (right, r)
  | some (left, op) =>
    let lackOf (r : Reader) (o : Operand) : Reader :=
      if r.folds && o.content == .other then r.lack .caseUnknown o.nest.place else r
    (⟨.node ⟨left.nest.place.start, right.nest.place.stop⟩ [left.nest, right.nest],
      op.apply left.content right.content⟩, lackOf (lackOf r right) left)

/-- A sign that combines the sets on both sides of it. -/
def combineMore (r : Reader) (op : SetOp) : Reader :=
  let c := r.cursor.drop 2
  match r.classes with
  | [] => { r with cursor := c }
  | k :: classes =>
    let (left, r) := r.combine k
    { r with
      cursor := c
      classes := { k with members := { start := c.pos }, left := some (left, op) } :: classes }

/-- What an opening bracket begins. Minus signs, or a closing bracket, stand for themselves where
the first member is. -/
def openClass (r : Reader) : Except Error Reader := do
  let start := r.cursor.pos
  let unlessEnded (c : Cursor) : Except Error Cursor :=
    if c.rest = [] then .error (Flaw.classUnclosed.on (c.since start)) else .ok c
  let c ← unlessEnded r.cursor.next
  let negated := c.rest.head? = some '^'
  let first ← if negated then unlessEnded c.next else pure c
  let some (dashes, c) := skipDashes [] first.rest.length first
    | throw (Flaw.classUnclosed.on ⟨start, start⟩)
  let (members, c) ←
    if dashes = [] ∧ c.rest.head? = some ']' then do
      pure ([Nest.leaf c.head], ← unlessEnded c.next)
    else pure (dashes, c)
  let content : Content := if members.isEmpty then .empty else .other
  return { r with
    cursor := c
    classes := ⟨c.since start, negated, ⟨first.pos, members, content⟩, none⟩ :: r.classes }

def closeClass (r : Reader) : Reader :=
  let c := r.cursor.advance
  match r.classes with
  | [] => { r with cursor := c }
  | k :: classes =>
    let place := c.since k.place.start
    let (inner, r) := r.combine k
    let r := { r with classes := classes }
    let r :=
      if r.folds && inner.content == .other then r.lack .caseUnknown place
      else if k.negated && !c.modes.unicode then r.lack .notUtf8 place
      else r
    let t : Nest := .node place [inner.nest]
    if classes.isEmpty then r.push c t true
    else r.pushMember c t (if k.negated then inner.content.complement else inner.content)

def classStep (r : Reader) : Except Error Reader :=
  match setOp? r.cursor.rest, r.cursor.rest with
  | some op, _ => .ok (r.combineMore op)
  | none, '[' :: _ =>
    match r.namedClass? with
    | some r => .ok r
    | none => r.openClass
  | none, ']' :: _ => .ok r.closeClass
  | none, _ => r.classRange

end Reader

end Lr35902.Host.Pattern
