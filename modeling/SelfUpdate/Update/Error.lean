import SelfUpdate.Archive.Format
import SelfUpdate.FileSystem.Failure
import SelfUpdate.Release.Resolution
import SelfUpdate.Text.Quoted

/-!
# Why an update failed

Each stage of an update has its own errors. An error knows the stage it belongs
to, its message, the messages of what caused it, and whether a hint for the user
applies.
-/

namespace SelfUpdate

/-- The stages of an update, in the order they are entered. -/
inductive UpdateStage where
  | preflight
  | resolveVersion
  | confirm
  | fetch
  | extract
  | stageWrite
  | atomicReplace
  deriving DecidableEq, Repr

namespace UpdateStage

def name : UpdateStage → String
  | .preflight => "preflight"
  | .resolveVersion => "resolve-version"
  | .confirm => "confirm"
  | .fetch => "fetch"
  | .extract => "extract"
  | .stageWrite => "stage-write"
  | .atomicReplace => "atomic-replace"

def all : List UpdateStage :=
  [.preflight, .resolveVersion, .confirm, .fetch, .extract, .stageWrite, .atomicReplace]

def index : UpdateStage → Nat
  | .preflight => 0
  | .resolveVersion => 1
  | .confirm => 2
  | .fetch => 3
  | .extract => 4
  | .stageWrite => 5
  | .atomicReplace => 6

instance : LT UpdateStage := ⟨fun left right => left.index < right.index⟩

instance (left right : UpdateStage) : Decidable (left < right) :=
  inferInstanceAs (Decidable (left.index < right.index))

end UpdateStage

/-- The running program cannot be replaced. -/
inductive PreflightError where
  | executableNotFound (reason : Failure)
  | stat (path : Path) (reason : Failure)
  | notWritable (path : Path) (mode : UInt32)
  deriving DecidableEq, Repr

/-- The release archive could not be downloaded. -/
inductive NetworkError where
  | transport (url : String)
  | status (url : String) (code : Nat)
  | cancelled (url : String)
  | tooLarge (url : String) (limit : UInt64)
  deriving DecidableEq, Repr

/-- The program could not be extracted from the archive. -/
inductive ArchiveError where
  | unknownFormat
  | entryNotFound (entry : String)
  | entryTooLarge (entry : String) (limit : UInt64)
  | corrupt (format : ArchiveFormat)
  deriving DecidableEq, Repr

/-- The new program could not be staged or moved into place. -/
inductive InstallError where
  | scratchDirectory (path : Path) (reason : Failure)
  | writeStaging (path : Path) (reason : Failure)
  | rename (staged target : Path) (reason : Failure)
  deriving DecidableEq, Repr

/-- Why an update failed. A question that was not confirmed was declined, or could not be asked
for a reason. -/
inductive UpdateError where
  | preflight (error : PreflightError)
  | version (error : VersionError)
  | notConfirmed (release : String) (reason : Option (List String))
  | network (error : NetworkError)
  | archive (error : ArchiveError)
  | install (error : InstallError)
  deriving DecidableEq, Repr

/-- Permission bits in octal digits. -/
def octal (mode : UInt32) : String :=
  String.ofList (Nat.toDigits 8 mode.toNat)

def PreflightError.message : PreflightError → String
  | .executableNotFound _ => "preflight: cannot determine path of the running executable"
  | .stat path _ => "preflight: cannot stat current binary " ++ path.text
  | .notWritable path mode =>
      "preflight: missing write permission on current binary " ++ path.text ++ " (mode " ++
        octal mode ++ ")"

def VersionError.message : VersionError → String
  | .invalidArgument version _ =>
      "invalid version argument provided: " ++ Text.quoted version
  | .invalidReported version _ =>
      "release host reported invalid version: " ++ Text.quoted version
  | .report _ => "fetch latest release version"

def NetworkError.message : NetworkError → String
  | .transport url => "failed to fetch URL " ++ url
  | .status url code =>
      "failed to fetch release: URL " ++ url ++ " returned status code " ++ toString code
  | .cancelled url => "download of " ++ url ++ " was cancelled"
  | .tooLarge url limit =>
      "release archive at " ++ url ++ " exceeds the " ++ toString limit.toNat ++
        " byte download limit"

def ArchiveError.message : ArchiveError → String
  | .unknownFormat => "unknown archive type"
  | .entryNotFound entry => "entry not found: " ++ Text.quoted entry
  | .entryTooLarge entry limit =>
      "entry " ++ Text.quoted entry ++ " exceeds the " ++ toString limit.toNat ++
        " byte extraction limit"
  | .corrupt format => "failed to read " ++ format.name ++ " archive"

def InstallError.message : InstallError → String
  | .scratchDirectory path _ => "failed to create scratch directory " ++ path.text
  | .writeStaging path _ => "failed to write updated coder binary to " ++ path.text
  | .rename staged target _ =>
      "failed to update coder binary in-place: " ++ staged.text ++ " -> " ++ target.text

namespace UpdateError

/-- The stage that an error belongs to. -/
def stage : UpdateError → UpdateStage
  | .preflight _ => .preflight
  | .version _ => .resolveVersion
  | .notConfirmed _ _ => .confirm
  | .network _ => .fetch
  | .archive _ => .extract
  | .install (.rename _ _ _) => .atomicReplace
  | .install _ => .stageWrite

/-- The hint shown when an update was not confirmed. -/
def forceTip : String := "use \"--force\" to update without confirmation"

/-- The hint that goes with an error. -/
def tip : UpdateError → Option String
  | .notConfirmed _ _ => some forceTip
  | _ => none

def message : UpdateError → String
  | .preflight error => error.message
  | .version error => error.message
  | .notConfirmed release _ => "failed to confirm update to " ++ release
  | .network error => error.message
  | .archive error => error.message
  | .install error => error.message

/-- The messages of what caused an error, the nearest cause first. What a decoder or
the transport reported is not kept. -/
def causes : UpdateError → List String
  | .preflight (.executableNotFound reason) => [reason.message]
  | .preflight (.stat _ reason) => [reason.message]
  | .preflight (.notWritable _ _) => []
  | .version (.invalidArgument _ reason) => [reason.message]
  | .version (.invalidReported _ reason) => [reason.message]
  | .version (.report reason) => reason
  | .notConfirmed _ reason => reason.getD []
  | .network _ => []
  | .archive _ => []
  | .install (.scratchDirectory _ reason) => [reason.message]
  | .install (.writeStaging _ reason) => [reason.message]
  | .install (.rename _ _ reason) => [reason.message]

end UpdateError

end SelfUpdate
