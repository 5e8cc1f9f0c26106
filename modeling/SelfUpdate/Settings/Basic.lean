import SelfUpdate.Product

/-!
# Settings of the program

How long exchanges over the network may take, how the program calls itself there,
and where its releases are published. Every setting has a default.
-/

namespace SelfUpdate

/-- Settings of exchanges over the network. Times are in seconds. -/
structure NetworkSettings where
  httpTimeout : UInt64
  downloadTimeout : UInt64
  userAgent : String
  deriving DecidableEq, Repr

/-- Settings of where releases are published. -/
structure ReleaseSettings where
  downloadUrl : String
  apiUrl : String
  repositoryOwner : String
  repositoryName : String
  deriving DecidableEq, Repr

structure Settings where
  network : NetworkSettings
  release : ReleaseSettings
  deriving DecidableEq, Repr

/-- What the program calls itself by default: its version and the platform it runs on. -/
def defaultUserAgent : String :=
  "coder-cli/" ++ programVersion ++ " (" ++ hostSystem ++ "; " ++ hostArchitecture ++ ")"

def NetworkSettings.default : NetworkSettings :=
  ⟨30, 10, defaultUserAgent⟩

def ReleaseSettings.default : ReleaseSettings :=
  ⟨"https://github.com/cdr/coder-cli", "https://api.github.com", "cdr", "coder-cli"⟩

/-- The settings of a program that was told nothing else. -/
def Settings.default : Settings :=
  ⟨.default, .default⟩

end SelfUpdate
