import Lr35902.Text.Utf8

/-!
# Strings of the operating system

The words of a command line and the paths of files: bytes, which need not be text.
-/

namespace Lr35902

abbrev OsString := List UInt8

namespace OsString

def ofText (s : String) : OsString := s.toUTF8.data.toList

/-- The string for people to read, with replacements for what is not text. -/
def display (s : OsString) : String := String.ofList (Utf8.decode s)

/-- The text that the string is, if it is one. -/
def text? (s : OsString) : Option String :=
  if ofText s.display = s then some s.display else none

end OsString

end Lr35902
