import Lr35902.Console.Options
import Lr35902.Json

/-!
# Libraries

What the program leaves to others, and what they are documented to do as far as the program relies
on it: the parser of the command line, the judge of log filters and the printer of objects.
-/

namespace Lr35902

/-- What a parser does instead: show a text that was asked for, or refuse the words. -/
inductive Stop where
  | shown (text : String)
  | refused (text : String)
  deriving DecidableEq, Repr

/-- Reads what the words of a command line give. -/
abbrev Parser := List OsString → Except Stop Options.Given

namespace Parser

open Options

/-- The word behind which all words are operands. -/
def separator : OsString := .ofText "--"

/-- The word that names an option. -/
def option (name : String) : OsString := .ofText ("--" ++ name)

/-- The word that names an option and has its value. -/
def joined (name : String) (value : OsString) : OsString := .ofText ("--" ++ name ++ "=") ++ value

def Dashed (word : OsString) : Prop := word.head? = some 0x2D

instance : DecidablePred Dashed := fun word => inferInstanceAs (Decidable (word.head? = some 0x2D))

/-- What the parser is documented to do with words behind others, as long as it can read those and
the separator is not among them. Options and the operand come in any order. -/
structure Documented (parse : Parser) : Prop where
  /-- Nothing has to be given. -/
  nothing : parse [] = .ok {}
  /-- An option has its value behind the first equals sign, whatever the value is. -/
  joined : ∀ {words g x name value}, parse words = .ok g → separator ∉ words → g.Lacks x →
    x.option? = some name → x.WrittenAs value →
      parse (words ++ [joined name value]) = .ok (g.give x)
  /-- An option has its value in the next word, unless that begins with a dash. -/
  apart : ∀ {words g x name value}, parse words = .ok g → separator ∉ words → g.Lacks x →
    x.option? = some name → x.WrittenAs value → ¬ Dashed value →
      parse (words ++ [option name, value]) = .ok (g.give x)
  /-- An option without a value turns something on. -/
  switch : ∀ {words g x name}, parse words = .ok g → separator ∉ words → g.Lacks x →
    x.option? = some name → x.isSwitch = true → parse (words ++ [option name]) = .ok (g.give x)
  /-- A word that does not begin with a dash is the operand. -/
  operand : ∀ {words g path}, parse words = .ok g → separator ∉ words → g.rom = none →
    path ≠ [] → ¬ Dashed path → parse (words ++ [path]) = .ok (g.give (.rom path))
  /-- Behind the separator every word is the operand. -/
  separated : ∀ {words g path}, parse words = .ok g → separator ∉ words → g.rom = none →
    path ≠ [] → parse (words ++ [separator, path]) = .ok (g.give (.rom path))

end Parser

/-- Tells what is wrong with a log filter, if anything is: the complaint and what lies behind it,
outermost first. -/
abbrev FilterJudge := String → Option (List String)

/-- The judge is documented to let a target with the name of a level pass. -/
structure FilterJudge.Documented (judge : FilterJudge) : Prop where
  level : ∀ name ∈ ["off", "error", "warn", "info", "debug", "trace"],
    judge (Options.logTarget ++ "=" ++ name) = none

structure Libraries where
  parse : Parser
  judge : FilterJudge
  print : ObjectPrinter

def Libraries.options (lib : Libraries) (words : List OsString) : Except Stop Options :=
  (lib.parse words).map Options.ofGiven

end Lr35902
