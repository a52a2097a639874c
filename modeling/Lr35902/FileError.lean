/-!
# File errors

Why a file could not be read or created, in the operating system's words.
-/

namespace Lr35902

inductive FileError where
  | notFound
  | notDirectory
  | isDirectory
  | nameTooLong
  | other (message : String)
  deriving DecidableEq, Repr

def FileError.message : FileError → String
  | .notFound => "No such file or directory (os error 2)"
  | .notDirectory => "Not a directory (os error 20)"
  | .isDirectory => "Is a directory (os error 21)"
  | .nameTooLong => "File name too long (os error 36)"
  | .other message => message

end Lr35902
