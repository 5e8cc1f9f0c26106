import SelfUpdate.Version.Basic

/-!
# Where a release is downloaded from

Every platform has one archive per release. Its name is made of the platform's
release identifiers, and its address of the base address, the finalized version
and that name.
-/

namespace SelfUpdate

def releaseSystem (system : String) : String :=
  if system = "macos" then "darwin" else system

def releaseArchitecture (architecture : String) : String :=
  match architecture with
  | "x86_64" => "amd64"
  | "aarch64" => "arm64"
  | "x86" => "386"
  | other => other

/-- A platform as releases name it. -/
structure Platform where
  system : String
  architecture : String
  deriving DecidableEq, Repr

/-- The archive of one release for one platform. -/
structure DownloadTarget where
  platform : Platform
  version : Version
  deriving DecidableEq, Repr

namespace DownloadTarget

/-- Linux gets a compressed tar archive, every other system a zip archive. -/
def fileExtension (target : DownloadTarget) : String :=
  if target.platform.system = "linux" then "tar.gz" else "zip"

def assetName (target : DownloadTarget) : String :=
  "coder-cli-" ++ target.platform.system ++ "-" ++ target.platform.architecture ++ "." ++
    target.fileExtension

/-- A base address without the slashes at its end. -/
def trimSlashes (base : String) : String :=
  String.ofList (base.toList.reverse.dropWhile (· == '/')).reverse

/-- The address of the archive below a base address. -/
def url (target : DownloadTarget) (base : String) : String :=
  trimSlashes base ++ "/releases/download/v" ++ target.version.finalized ++ "/" ++
    target.assetName

end DownloadTarget

end SelfUpdate
