import ProbeEngine.Text.Search

/-!
# Errors in the log

How the log shows an error and where the error was made: its causes, each on a
line of its own, and a backtrace if the environment asks for one.
-/

namespace ProbeEngine.Log

/-- What stands between an error and its cause. -/
def causedBy : String := "\n  caused by: "

/-- The text of an error with its causes, outermost first. -/
def chainText (errors : List String) : String := Text.joinWith causedBy errors

/-- Whether backtraces are shown, by the variable of the environment for them. -/
def showsBacktraces (setting : Option String) : Bool :=
  setting == some "1" || setting == some "full"

end ProbeEngine.Log
