import Lr35902.Console.Libraries
import Lr35902.Host.Pattern.Check

/-!
# Log filters

A judge of log filters, by their grammar. A filter is a list of directives between commas. A
directive is a level, or a target with a level behind an equals sign, and a target may be or end
with a span in brackets that has a field in braces. What stands behind the name of the field is a
number or a pattern:

    target[span{field=pattern}]=level
-/

namespace Lr35902.Host.LogFilter

inductive Error where
  | level
  | directive
  | pattern (text : List Char) (error : Pattern.Error)
  deriving DecidableEq, Repr

/-- What is reported, outermost first: what is wrong with a part is wrong with its directive too,
and is told of both. -/
def Error.causes : Error → List String
  | .level =>
    let message :=
      "error parsing level filter: expected one of \"off\", \"error\", \"warn\", \"info\", " ++
        "\"debug\", \"trace\", or a number 0-5"
    [message, message]
  | .directive => ["invalid filter directive"]
  | .pattern text error =>
    let causes := error.causes text
    ("invalid field filter: " ++ causes.headD "") :: causes

def levelNames : List (List Char) :=
  ["off".toList, "error".toList, "warn".toList, "info".toList, "debug".toList, "trace".toList]

/-- Whether a text is a level: a name in either case, or a number. -/
def isLevel (cs : List Char) : Bool :=
  levelNames.contains (cs.map Char.toLower) ||
    match Numeral.readUnsigned cs with
    | some n => n < levelNames.length
    | none => false

def dropSign : List Char → List Char
  | '+' :: cs => cs
  | '-' :: cs => cs
  | cs => cs

/-- Whether a text is a number in decimal: digits, a point among them or at one end if need be, and
perhaps an exponent. A sign may come before it. What is no number or beyond all numbers has a name,
in either case. -/
def isNumber (cs : List Char) : Bool :=
  let body := dropSign cs
  let isExponentMark (c : Char) : Bool := c == 'e' || c == 'E'
  let mantissa := body.takeWhile (!isExponentMark ·)
  let exponent := body.dropWhile (!isExponentMark ·)
  let isDigits (ds : List Char) : Bool := !ds.isEmpty && ds.all Char.isDigit
  ["inf".toList, "infinity".toList, "nan".toList].contains (body.map Char.toLower) ||
    (isDigits (mantissa.filter (· != '.')) && mantissa.count '.' ≤ 1 &&
      (exponent.isEmpty || isDigits (dropSign (exponent.drop 1))))

/-- What is wrong with a field: its name is not judged, and neither is what stands behind a second
equals sign. -/
def fieldError? (field : List Char) : Option Error :=
  match Text.fields '=' field with
  | _ :: value :: _ =>
    if isNumber value then none else (Pattern.error? value).map (.pattern value)
  | _ => none

/-- Divides a text behind as many characters as take `n` bytes. -/
def splitBytes : Nat → List Char → List Char × List Char
  | 0, cs => ([], cs)
  | _, [] => ([], [])
  | n, c :: cs =>
    let (front, rest) := splitBytes (n - c.utf8Size) cs
    (c :: front, rest)

/-- Where the reader of a directive stands. -/
inductive Place where
  | start
  | target
  | span
  /-- Between braces, behind `n` bytes. -/
  | field (n : Nat)
  | afterFields
  | afterSpan

def beginsTarget (c : Char) : Bool := c == '-' || c == ':' || c == '_' || Text.isAlphanumeric c

/-- The blanks around a directive. Where its parts begin and end is counted without them and in
bytes, but the parts are cut out of the text that has them. -/
structure Surroundings where
  leading : List Char
  trailing : List Char

/-- The text so far, backwards, in two parts: what lies as many bytes behind as the leading blanks
take comes second. `before` is what has been read, backwards. -/
def Surroundings.shifted (s : Surroundings) (before : List Char) : List Char × List Char :=
  splitBytes (String.ofList s.leading).utf8ByteSize (before ++ s.leading.reverse)

/-- The part of `n` bytes that ends here. -/
def Surroundings.part (s : Surroundings) (before : List Char) (n : Nat) : List Char :=
  (splitBytes n (s.shifted before).2).1.reverse

/-- What is wrong with the level that begins here. -/
def Surroundings.levelError? (s : Surroundings) (before rest : List Char) : Option Error :=
  let level := (s.shifted before).1.reverse ++ rest ++ s.trailing
  if level = [] ∨ isLevel level then none else some .level

/-- What is wrong with the rest of a directive. -/
def errorFrom (s : Surroundings) (before : List Char) : Place → List Char → Option Error
  | .target, [] => none
  | .afterSpan, [] => none
  | _, [] => some .directive
  | .start, c :: cs =>
    if c = '[' then errorFrom s (c :: before) .span cs
    else if beginsTarget c then errorFrom s (c :: before) .target cs
    else some .directive
  | .target, c :: cs =>
    if c = '=' then s.levelError? (c :: before) cs
    else if c = '[' then errorFrom s (c :: before) .span cs
    else errorFrom s (c :: before) .target cs
  | .span, c :: cs =>
    if c = ']' then errorFrom s (c :: before) .afterSpan cs
    else if c = '\x7b' then errorFrom s (c :: before) (.field 0) cs
    else errorFrom s (c :: before) .span cs
  | .field n, c :: cs =>
    if c = '\x7d' then
      if n = 0 then some .directive
      else fieldError? (s.part before n) <|> errorFrom s (c :: before) .afterFields cs
    else errorFrom s (c :: before) (.field (n + c.utf8Size)) cs
  | .afterFields, c :: cs =>
    if c = ']' then errorFrom s (c :: before) .afterSpan cs else some .directive
  | .afterSpan, c :: cs =>
    if c = '=' then s.levelError? (c :: before) cs else some .directive

def directiveError? (d : List Char) : Option Error :=
  let surroundings := ⟨d.takeWhile Text.isBlank, (d.reverse.takeWhile Text.isBlank).reverse⟩
  errorFrom surroundings [] .start (Text.strip Text.isBlank d)

/-- What is wrong with the first directive that is not well formed. Nothing may stand between two
commas. -/
def error? (filter : String) : Option Error :=
  ((Text.fields ',' filter.toList).filter (· ≠ [])).findSome? directiveError?

def judge : FilterJudge := fun filter => (error? filter).map Error.causes

end Lr35902.Host.LogFilter
