import Lr35902.Text.Fields
import Lr35902.Text.Numeral

/-!
# Errors in patterns

What can be wrong with a regular expression, and the report that shows where.
-/

namespace Lr35902.Host.Pattern

/-- A stretch of a pattern: how many characters come before its beginning and before its end. -/
structure Span where
  start : Nat
  stop : Nat
  deriving DecidableEq, Repr

inductive Flaw where
  | backreference
  | boundaryIncomplete
  | boundaryUnclosed
  | caseUnknown
  | classRangeEmpty
  | classRangeMember
  | classUnclosed
  | classUnknown
  | classWrongMember
  | countInvalid
  | countMissing
  | countUnclosed
  | escapeIncomplete
  | escapeUnknown
  | flagDangling
  | flagMissing
  | flagNegatedTwice
  | flagRepeated
  | flagUnknown
  | groupUnclosed
  | groupUnopened
  | hexDigitInvalid
  | hexInvalid
  | lookAround
  | nameEmpty
  | nameInvalid
  | nameRepeated
  | nameUnclosed
  | nestedTooDeep
  | notAscii
  | notUtf8
  | propertyInvalid
  | propertyUnknown
  | repetitionMissing
  deriving DecidableEq, Repr

def Flaw.message : Flaw → String
  | .backreference => "backreferences are not supported"
  | .boundaryIncomplete =>
    "found either the beginning of a special word boundary or a bounded repetition on a " ++
      "\\b with an opening brace, but no closing brace"
  | .boundaryUnclosed =>
    "special word boundary assertion is either unclosed or contains an invalid character"
  | .caseUnknown =>
    "Unicode-aware case insensitivity matching is not available (make sure the unicode-case " ++
      "feature is enabled)"
  | .classRangeEmpty => "invalid character class range, the start must be <= the end"
  | .classRangeMember => "invalid range boundary, must be a literal"
  | .classUnclosed => "unclosed character class"
  | .classUnknown =>
    "Unicode-aware Perl class not found (make sure the unicode-perl feature is enabled)"
  | .classWrongMember => "invalid escape sequence found in character class"
  | .countInvalid => "decimal literal invalid"
  | .countMissing => "repetition quantifier expects a valid decimal"
  | .countUnclosed => "unclosed counted repetition"
  | .escapeIncomplete => "incomplete escape sequence, reached end of pattern prematurely"
  | .escapeUnknown => "unrecognized escape sequence"
  | .flagDangling => "dangling flag negation operator"
  | .flagMissing => "expected flag but got end of regex"
  | .flagNegatedTwice => "flag negation operator repeated"
  | .flagRepeated => "duplicate flag"
  | .flagUnknown => "unrecognized flag"
  | .groupUnclosed => "unclosed group"
  | .groupUnopened => "unopened group"
  | .hexDigitInvalid => "invalid hexadecimal digit"
  | .hexInvalid => "hexadecimal literal is not a Unicode scalar value"
  | .lookAround => "look-around, including look-ahead and look-behind, is not supported"
  | .nameEmpty => "empty capture group name"
  | .nameInvalid => "invalid capture group character"
  | .nameRepeated => "duplicate capture group name"
  | .nameUnclosed => "unclosed capture group name"
  | .nestedTooDeep => "exceed the maximum number of nested parentheses/brackets (250)"
  | .notAscii => "Unicode not allowed here"
  | .notUtf8 => "pattern can match invalid UTF-8"
  | .propertyInvalid => "invalid Unicode character class"
  | .propertyUnknown => "Unicode property not found"
  | .repetitionMissing => "repetition operator missing expression"

inductive Error where
  /-- A flaw at a place, which may have to do with a place before it. -/
  | flawed (flaw : Flaw) (place : Span) (earlier : Option Span)
  /-- A pattern that looks for the ends of words as Unicode knows them. -/
  | wordBoundary
  deriving DecidableEq, Repr

def Flaw.on (flaw : Flaw) (place : Span) : Error := .flawed flaw place none

/-- Marks under the characters of the spans, from column `pos` on. There is one at least for each
span. -/
def marks (pos : Nat) : List Span → List Char
  | [] => []
  | s :: spans =>
    let width := max 1 (s.stop - s.start)
    List.replicate (s.start - pos) ' ' ++ List.replicate width '^' ++
      marks (max pos s.start + width) spans

structure LineColumn where
  line : Nat
  column : Nat
  deriving DecidableEq, Repr

def LineColumn.ofPos (pattern : List Char) (pos : Nat) : LineColumn :=
  let before := pattern.take pos
  ⟨before.count '\n', (before.reverse.takeWhile (· ≠ '\n')).length⟩

/-- The line without the return that may stand before its end. -/
def dropReturn (line : List Char) : List Char :=
  if line.getLast? = some '\r' then line.dropLast else line

/-- The lines of a pattern. One that is empty at the end does not count. -/
def lines (pattern : List Char) : List (List Char) :=
  match (Text.fields '\n' pattern).reverse with
  | [] => []
  | last :: ended => (ended.reverse.map dropReturn) ++ if last = [] then [] else [last]

def numberedLine (width number : Nat) (line : List Char) (inLine : List Span) : String :=
  let digits := Numeral.decimal number
  String.ofList (List.replicate (width - digits.length) ' ') ++ digits ++ ": " ++
    String.ofList line ++ "\n" ++
    if inLine = [] then ""
    else String.ofList (List.replicate (width + 2) ' ' ++ marks 0 inLine) ++ "\n"

/-- Where a span begins and ends that goes on over the end of a line. -/
def LineColumn.note (start stop : LineColumn) : String :=
  "on line " ++ Numeral.decimal (start.line + 1) ++ " (column " ++
    Numeral.decimal (start.column + 1) ++ ") through line " ++ Numeral.decimal (stop.line + 1) ++
    " (column " ++ Numeral.decimal stop.column ++ ")"

/-- A pattern of several lines with the spans marked or told. -/
def notedLines (pattern : List Char) (spans : List Span) : String :=
  let divider := String.ofList (List.replicate 79 '~') ++ "\n"
  let width := (Numeral.decimal (Text.fields '\n' pattern).length).length
  let ends := spans.map fun s =>
    (LineColumn.ofPos pattern s.start, LineColumn.ofPos pattern s.stop)
  let (inside, across) := ends.partition fun (start, stop) => start.line = stop.line
  let text := (lines pattern).zipIdx.map fun (line, i) =>
    numberedLine width (i + 1) line
      ((inside.filter (·.1.line = i)).map fun (start, stop) => ⟨start.column, stop.column⟩)
  divider ++ String.join text ++ divider ++
    String.join (across.map fun (start, stop) => start.note stop ++ "\n")

/-- The pattern with the places of a flaw marked, and what is wrong. -/
def report (pattern : List Char) (flaw : Flaw) (spans : List Span) : String :=
  "regex parse error:\n" ++
    (if '\n' ∈ pattern then notedLines pattern spans
    else
      "    " ++ String.ofList pattern ++ "\n    " ++ String.ofList (marks 0 spans) ++ "\n") ++
    "error: " ++ flaw.message

/-- What is reported of an error in a pattern, outermost first. -/
def Error.causes (pattern : List Char) : Error → List String
  | .flawed flaw place earlier =>
    ["error building NFA", "error parsing regex",
      report pattern flaw (earlier.toList ++ [place])]
  | .wordBoundary =>
    ["unsupported regex feature for DFAs: cannot build DFAs for regexes with Unicode word " ++
      "boundaries; switch to ASCII word boundaries, or heuristically enable Unicode word " ++
      "boundaries or use a different regex engine"]

end Lr35902.Host.Pattern
