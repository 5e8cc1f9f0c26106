import SelfUpdate.FileSystem.Failure
import SelfUpdate.Text.Quoted
import SelfUpdate.Version.Error

/-!
# What an update tells its user on the way

Notices are for the log. They never change how an update goes on.
-/

namespace SelfUpdate

inductive NoticeLevel where
  | info
  | warning
  deriving DecidableEq, Repr

/-- Something worth telling while an update runs. -/
inductive Notice where
  | releaseReported (host tag : String)
  | runningVersionUnreadable (running : String) (reason : Version.ParseError)
  | downloading (url : String)
  | downloaded (size : Nat) (url : String)
  | downloadCancelled (url : String)
  | stagingNextToExecutable (scratch executable : Path)
  | removalFailed (path : Path) (reason : Failure)
  deriving DecidableEq, Repr

namespace Notice

def level : Notice → NoticeLevel
  | .releaseReported _ _ => .info
  | .runningVersionUnreadable _ _ => .warning
  | .downloading _ => .info
  | .downloaded _ _ => .info
  | .downloadCancelled _ => .warning
  | .stagingNextToExecutable _ _ => .warning
  | .removalFailed _ _ => .warning

def message : Notice → String
  | .releaseReported host tag =>
      "Release host at " ++ host ++ " reports version " ++ tag
  | .runningVersionUnreadable running reason =>
      "Failed to parse running version " ++ Text.quoted running ++
        ", proceeding with update: " ++ reason.message
  | .downloading url => "Downloading " ++ url
  | .downloaded size url => "Downloaded " ++ toString size ++ " bytes from " ++ url
  | .downloadCancelled url => "Update cancelled while downloading " ++ url
  | .stagingNextToExecutable scratch executable =>
      scratch.text ++ " is on a different filesystem than " ++ executable.text ++
        ", staging next to the executable"
  | .removalFailed path reason =>
      "Failed to remove " ++ path.text ++ ": " ++ reason.message

end Notice

end SelfUpdate
