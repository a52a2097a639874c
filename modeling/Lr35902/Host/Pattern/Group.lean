import Lr35902.Text.Alphanumeric
import Lr35902.Host.Pattern.Reader

/-!
# Groups and repetitions

What parentheses and the signs of repetition do. A pattern in a log filter has no comma and no
closing brace in it, since these would end it. So a repetition with a count is never complete.
-/

namespace Lr35902.Host.Pattern

def flagLetters : List Char := ['i', 'm', 's', 'U', 'u', 'R', 'x']

/-- Reads flags up to the colon or parenthesis behind them, each with its place. -/
def readFlags (seen : List (Char × Nat)) (pos : Nat) :
    List Char → Except Error (List (Char × Nat))
  | [] => .error (Flaw.flagMissing.on ⟨pos, pos⟩)
  | c :: cs =>
    let place : Span := ⟨pos, pos + 1⟩
    if c = ':' ∨ c = ')' then
      match seen.getLast? with
      | some ('-', p) => .error (Flaw.flagDangling.on ⟨p, p + 1⟩)
      | _ => .ok seen
    else if c ≠ '-' ∧ c ∉ flagLetters then .error (Flaw.flagUnknown.on place)
    else
      match seen.lookup c with
      | some p =>
        .error (.flawed (if c = '-' then .flagNegatedTwice else .flagRepeated) place
          (some ⟨p, p + 1⟩))
      | none => readFlags (seen ++ [(c, pos)]) (pos + 1) cs

/-- What flags make of a mode: those behind the minus sign switch it off. -/
def switched (flags : List (Char × Nat)) (letter : Char) (old : Bool) : Bool :=
  let letters := flags.map (·.1)
  if letter ∈ letters.takeWhile (· ≠ '-') then true
  else if letter ∈ letters then false
  else old

def Modes.withFlags (modes : Modes) (flags : List (Char × Nat)) : Modes where
  spaced := switched flags 'x' modes.spaced
  ignoreCase := switched flags 'i' modes.ignoreCase
  unicode := switched flags 'u' modes.unicode

def isNameChar (first : Bool) (c : Char) : Bool :=
  c == '_' || Text.isAlphabetic c ||
    !first && (c == '.' || c == '[' || c == ']' || Text.isAlphanumeric c)

def readName (first : Bool) (pos : Nat) : List Char → Except Error (List Char)
  | [] => .error (Flaw.nameUnclosed.on ⟨pos, pos⟩)
  | c :: cs =>
    if c = '>' then .ok []
    else if isNameChar first c then do return c :: (← readName false (pos + 1) cs)
    else .error (Flaw.nameInvalid.on ⟨pos, pos + 1⟩)

namespace Reader

/-- Opens a group whose inside begins at the cursor. -/
def enter (r : Reader) (place : Span) (c : Cursor) : Reader :=
  { r with
    cursor := c
    body := .ofStart c.pos
    groups := ⟨place, r.cursor.modes, r.body⟩ :: r.groups }

/-- Reads flags, for the rest of the group around them or for a group of their own. -/
def flagGroup (r : Reader) (place : Span) (c : Cursor) : Except Error Reader := do
  if c.rest = [] then
    throw (Flaw.groupUnclosed.on place)
  let flags ← readFlags [] c.pos c.rest
  let stop := c.drop flags.length
  let inner := { stop.advance with modes := stop.modes.withFlags flags }
  match stop.rest with
  | ':' :: _ => return r.enter place inner
  | _ =>
    if flags = [] then
      throw (Flaw.repetitionMissing.on ⟨c.pos - 1, c.pos - 1⟩)
    else return r.push inner (.leaf (inner.since place.start)) false

def namedGroup (r : Reader) (place : Span) (c : Cursor) : Except Error Reader := do
  let name ← readName true c.pos c.rest
  let stop := c.drop name.length
  let namePlace := stop.since c.pos
  if name = [] then
    throw (Flaw.nameEmpty.on namePlace)
  if let some earlier := r.names.lookup name then
    throw (.flawed .nameRepeated namePlace (some earlier))
  return { r.enter place stop.advance with names := (name, namePlace) :: r.names }

/-- What an opening parenthesis begins. -/
def openGroup (r : Reader) : Except Error Reader := do
  let place := r.cursor.head
  let c := r.cursor.next
  if let some stop := ["?=", "?!", "?<=", "?<!"].findSome? c.past? then
    throw (Flaw.lookAround.on (stop.since place.start))
  match c.past? "?P<" <|> c.past? "?<" with
  | some name => r.namedGroup place name
  | none =>
    match c.past? "?" with
    | some inner => r.flagGroup place inner
    | none => return r.enter place c

def closeGroup (r : Reader) : Except Error Reader :=
  let stop := r.cursor.advance
  match r.groups with
  | [] => .error (Flaw.groupUnopened.on r.cursor.head)
  | g :: groups =>
    let t : Nest := .node (stop.since g.place.start) [r.body.nest r.cursor.pos]
    .ok ({ r with body := g.outer, groups := groups }.push { stop with modes := g.modes } t true)

def alternate (r : Reader) : Reader :=
  let c := r.cursor.advance
  { r with cursor := c, body := r.body.split r.cursor.pos c.pos }

/-- A repetition by a sign, which may be followed by another that makes it lazy. -/
def repetition (r : Reader) : Except Error Reader :=
  let branch := r.body.branch
  match branch.repeatable, branch.parts with
  | true, t :: parts =>
    let c := r.cursor.advance
    let stop := (c.past? "?").getD c
    let t : Nest := .node (stop.since t.place.start) [t]
    let branch := { branch with parts := t :: parts }
    .ok { r with cursor := stop, body := { r.body with branch := branch } }
  | _, _ => .error (Flaw.repetitionMissing.on r.cursor.here)

/-- What is wrong with a repetition by a count. -/
def countError (r : Reader) : Error :=
  let start := r.cursor.pos
  let c := r.cursor.next
  let digits := c.drop (c.rest.takeWhile Text.isBlank).length
  let (number, stop) := digits.readWhile Char.isDigit
  let after := (stop.readWhile Text.isBlank).2
  if !r.body.branch.repeatable then Flaw.repetitionMissing.on r.cursor.here
  else if after.rest = [] then Flaw.countUnclosed.on (after.since start)
  else
    match Numeral.readUnsigned number with
    | none => Flaw.countMissing.on digits.here
    | some n =>
      if n < UInt32.size then Flaw.countUnclosed.on (after.since start)
      else Flaw.countInvalid.on (stop.since digits.pos)

end Reader

end Lr35902.Host.Pattern
