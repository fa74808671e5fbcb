import TapeToJava.Shell.Utility.Condition
import TapeToJava.Shell.Utility.Format
import TapeToJava.Shell.Utility.Names
import TapeToJava.Shell.Utility.Search

/-! The programs of the system by their names. -/

namespace TapeToJava.Shell

/-- A program: what it makes of what it is given. -/
abbrev Utility := Given → Outcome

namespace Utility

/-- Programs that only work on what they are given. -/
def table : List (String × Utility) := [
  ("true", fun g => g.quits 0),
  ("false", fun g => g.quits 1),
  ("[", bracket),
  ("test", test),
  ("echo", echo),
  ("printf", printf),
  ("cat", cat),
  ("head", head),
  ("tail", tail),
  ("wc", wc),
  ("nl", nl),
  ("tac", tac),
  ("rev", rev),
  ("sha256sum", sha256sum),
  ("sort", sort),
  ("uniq", uniq),
  ("cut", cut),
  ("tr", tr),
  ("tee", tee),
  ("ls", ls),
  ("dir", dir),
  ("touch", touch),
  ("chmod", chmod),
  ("mkdir", mkdir),
  ("rmdir", rmdir),
  ("rm", rm),
  ("cp", cp),
  ("ln", ln),
  ("mv", mv),
  ("cmp", cmp),
  ("diff", diff),
  ("grep", grep),
  ("egrep", grepAs true false),
  ("fgrep", grepAs false true),
  ("sed", sed),
  ("basename", basename),
  ("dirname", dirname),
  ("seq", seq),
  ("sleep", sleep),
  ("uname", uname),
  ("whoami", whoami),
  ("id", id),
  ("expr", expr),
  ("sync", sync)]

end Utility

end TapeToJava.Shell
