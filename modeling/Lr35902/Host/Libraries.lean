import Lr35902.Host.Arguments
import Lr35902.Host.LogFilter

/-!
# The libraries of the executable

Libraries that the program can run with.
-/

namespace Lr35902.Host

def libraries : Libraries where
  parse := Arguments.parser
  judge := LogFilter.judge
  print := ObjectPrinter.pretty

end Lr35902.Host
