import Lr35902.Text.Numeral

/-!
# JSON objects

Flat objects, and what is known of the printer that they are handed to.
-/

namespace Lr35902

inductive Scalar where
  | null
  | bool (b : Bool)
  | number (n : Nat)
  | text (s : String)
  deriving DecidableEq, Repr

/-- Prints an object, given by its members with their names. -/
abbrev ObjectPrinter := List (String × Scalar) → String

/-- Whether the characters of a text stand for themselves between quotation marks. -/
def Text.isPlain (s : String) : Bool := s.toList.all fun c => c.isAlphanum || c == '_'

namespace Scalar

def isPlain : Scalar → Bool
  | .text s => Text.isPlain s
  | _ => true

@[simp] theorem isPlain_bool (b : Bool) : (bool b).isPlain = true := rfl

@[simp] theorem isPlain_number (n : Nat) : (number n).isPlain = true := rfl

/-- The value as it is printed, if it is plain. -/
def print : Scalar → String
  | .null => "null"
  | .bool b => if b then "true" else "false"
  | .number n => Numeral.decimal n
  | .text s => "\"" ++ s ++ "\""

end Scalar

namespace ObjectPrinter

def line (name : String) (value : Scalar) : String := "  \"" ++ name ++ "\": " ++ value.print

/-- The lines between braces, with a comma behind each but the last. -/
def pretty (members : List (String × Scalar)) : String :=
  "\x7b\n" ++ String.intercalate ",\n" (members.map fun (name, value) => line name value) ++
    "\n\x7d"

/-- What the printer is documented to do with plain names and values: it keeps the members in order
and gives each a line of its own. -/
structure Documented (print : ObjectPrinter) : Prop where
  layout : ∀ members, members ≠ [] →
    (∀ m ∈ members, Text.isPlain m.1 = true ∧ m.2.isPlain = true) → print members = pretty members

end ObjectPrinter

end Lr35902
