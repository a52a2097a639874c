import Lr35902.Console.Program
import Lr35902.Host.Libraries

/-!
# The executable

The program on the files, the arguments and the standard streams of the operating system.
-/

namespace Lr35902

/-- The error behind an exception of the file system. -/
def FileError.ofException (e : IO.Error) : FileError :=
  match e with
  | .noFileOrDirectory .. => .notFound
  | .inappropriateType _ 20 _ => .notDirectory
  | .inappropriateType _ 21 _ => .isDirectory
  | .invalidArgument _ 36 _ => .nameTooLong
  | e => .other e.toString

/-- Goes on with the text of a path, as the file system is reached through text. -/
def withPath {α : Type} (path : OsString) (access : String → IO α) : IO (Except FileError α) := do
  match path.text? with
  | none => return .error (.other "invalid path")
  | some path =>
    try
      return .ok (← access path)
    catch e => return .error (.ofException e)

instance : FileSystem IO where
  read path := withPath path fun path => IO.FS.readBinFile path
  write path content := withPath path fun path => IO.FS.writeBinFile path content

end Lr35902

open Lr35902 in
def main (words : List String) : IO UInt32 := do
  let ending ← Program.run Host.libraries (words.map OsString.ofText)
  IO.print ending.output
  IO.eprint ending.complaint
  return ending.code
