import Lr35902.Host.Pattern.Error

/-!
# Nesting

How deep the parts of a pattern lie in each other. Groups, classes, repetitions, and parts that
are made of several parts count.
-/

namespace Lr35902.Host.Pattern

inductive Nest where
  | leaf (place : Span)
  | node (place : Span) (parts : List Nest)

namespace Nest

def place : Nest → Span
  | leaf place => place
  | node place _ => place

def ofReversed (place : Span) : List Nest → Nest
  | [] => leaf place
  | [t] => t
  | ts => node place ts.reverse

mutual

/-- The first node that lies in more than `depth` others. -/
def beyond (depth : Nat) : Nest → Option Span
  | leaf _ => none
  | node place parts =>
    match depth with
    | 0 => some place
    | depth + 1 => beyondIn depth parts

def beyondIn (depth : Nat) : List Nest → Option Span
  | [] => none
  | t :: ts => t.beyond depth <|> beyondIn depth ts

end

end Nest

end Lr35902.Host.Pattern
