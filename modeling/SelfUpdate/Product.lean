import SelfUpdate.Release.Target

/-!
# The program that updates itself

What the program is called, which version and platform it was built as, and how
large its archives may be.
-/

namespace SelfUpdate

def programVersion : String := "1.3.0"

def binaryName : String := "coder"

def hostSystem : String := "linux"

def hostArchitecture : String := "x86_64"

/-- The platform this program was built for, as releases name it. -/
def hostPlatform : Platform :=
  ⟨releaseSystem hostSystem, releaseArchitecture hostArchitecture⟩

/-- The greatest size of an extracted binary: 100 MiB. -/
def maxBinarySize : UInt64 := 100 * 1024 * 1024

def maxDownloadSize : UInt64 := 2 * maxBinarySize

/-- The question asked before an update to a version. -/
def confirmationLabel (version : Version) : String :=
  "Update coder-cli to version " ++ version.finalized ++ "?"

end SelfUpdate
