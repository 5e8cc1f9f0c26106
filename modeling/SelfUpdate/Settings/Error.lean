import SelfUpdate.FileSystem.Failure

/-!
# Why settings could not be loaded
-/

namespace SelfUpdate

/-- Why settings could not be loaded. -/
inductive SettingsError where
  | notFound (path : String)
  | invalid (reason : String)
  | unreadable (reason : Failure)
  deriving DecidableEq, Repr

def SettingsError.message : SettingsError → String
  | .notFound path => "Configuration file not found: " ++ path
  | .invalid reason => "Invalid configuration format: " ++ reason
  | .unreadable reason => "IO error: " ++ reason.message

def SettingsError.causes : SettingsError → List String
  | .unreadable reason => [reason.message]
  | _ => []

end SelfUpdate
