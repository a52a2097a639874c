import Lr35902.FileError
import Lr35902.OsString
import Lr35902.Text.Fields

/-!
# File systems

What the program asks of a file system, and a file system that is a value: a tree of directories
with a working directory in it.
-/

namespace Lr35902

/-- Reading and writing whole files. -/
class FileSystem (m : Type → Type) where
  read : OsString → m (Except FileError ByteArray)
  /-- Writes a file, which is created or loses what was in it. -/
  write : OsString → ByteArray → m (Except FileError Unit)

/-- Where a file or directory lies: the names from the root down. -/
abbrev Location := List OsString

structure Files where
  /-- The working directory. -/
  home : Location
  files : List (Location × ByteArray)

namespace Files

def content? (fs : Files) (l : Location) : Option ByteArray := fs.files.lookup l

/-- Whether a directory lies there: the working directory, or one on the way to it or to a file. -/
def isDirectory (fs : Files) (l : Location) : Bool :=
  l.isPrefixOf fs.home || fs.files.any fun (f, _) => l.isPrefixOf f && l != f

/-- Whether one can go on from a location to a name in it. -/
def enter (fs : Files) (l : Location) : Except FileError Location :=
  if fs.isDirectory l then .ok l
  else if (fs.content? l).isSome then .error .notDirectory
  else .error .notFound

def maxNameSize : Nat := 255

/-- The name of a directory in itself. -/
def here : OsString := .ofText "."

def parent : OsString := .ofText ".."

def slash : UInt8 := 0x2F

/-- Follows names from a directory. Each name but the last has to lead to a directory. -/
def follow (fs : Files) (l : Location) : List OsString → Except FileError Location
  | [] => .ok l
  | name :: names => do
    let l ← fs.enter l
    if maxNameSize < name.length then
      throw .nameTooLong
    let next := if name = here then l else if name = parent then l.dropLast else l ++ [name]
    fs.follow next names

/-- The directory from which a path is followed. -/
def origin (fs : Files) (path : OsString) : Location :=
  if path.head? = some slash then [] else fs.home

/-- Where a path leads, and whether its form says that a directory lies there. Slashes that follow
one another count as one, and one at the end names nothing more. -/
def resolve (fs : Files) (path : OsString) : Except FileError (Location × Bool) := do
  if path = [] then
    throw .notFound
  let names := Text.fields slash path
  let l ← fs.follow (fs.origin path) (names.filter (· ≠ []))
  return (l, [[], here, parent].contains (names.getLastD []))

def read (fs : Files) (path : OsString) : Except FileError ByteArray := do
  let (l, asDirectory) ← fs.resolve path
  if fs.isDirectory l then .error .isDirectory
  else
    match fs.content? l with
    | none => .error .notFound
    | some content => if asDirectory then .error .notDirectory else .ok content

/-- Puts a file in place of the one at its location, if there is one. -/
def put (l : Location) (content : ByteArray) : List (Location × ByteArray) →
    List (Location × ByteArray)
  | [] => [(l, content)]
  | (k, old) :: rest => if k = l then (l, content) :: rest else (k, old) :: put l content rest

def write (fs : Files) (path : OsString) (content : ByteArray) : Except FileError Files := do
  let (l, asDirectory) ← fs.resolve path
  if asDirectory || fs.isDirectory l then .error .isDirectory
  else .ok { fs with files := put l content fs.files }

instance : FileSystem (StateM Files) where
  read path := return (← get).read path
  write path content := do
    match (← get).write path content with
    | .ok fs =>
      set fs
      return .ok ()
    | .error e => return .error e

end Files

end Lr35902
