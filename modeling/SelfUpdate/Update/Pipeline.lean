import SelfUpdate.Archive.Extract
import SelfUpdate.Update.Program

/-!
# The update pipeline

An update goes strictly forward: it makes sure that the running executable can be
replaced, finds out which version to install, asks the user, downloads and
unpacks the release archive, writes the new binary to a scratch directory, and
renames it over the executable. Any failure ends it.

Nothing before the rename changes the executable, and a rename replaces it as a
whole. If the scratch directory lies on another file system, the binary is
written once more next to the executable and renamed from there. Whatever was
written on the way is removed at the end, however the update ended.
-/

namespace SelfUpdate

/-- The running executable: where it lies and its permission bits. -/
structure ExecutableSlot where
  path : Path
  mode : UInt32
  deriving DecidableEq, Repr

/-- What a user asks of one update. Without a version, or with an empty one, the latest release
is meant. -/
structure UpdateOptions where
  force : Bool
  version : Option String
  deriving DecidableEq, Repr

/-- How a successful update ended: with nothing to be downloaded or written, or with the
executable at a path replaced. -/
inductive UpdateResult where
  | upToDate (release : String)
  | updated (running release : String) (path : Path)
  deriving DecidableEq, Repr

/-- What an update knows of the program it updates, of the address below which releases lie,
and of the archives it can read. -/
structure Updater where
  runningVersion : String
  downloadUrl : String
  platform : Platform
  decoders : Zip.Decoders

/-- The ending of the file staged next to the executable. -/
def siblingEnding : List Char := ".new".toList

/-- The beginning of the name of a scratch directory. -/
def scratchPrefix : String := "coder-update-"

variable {Handle : Type}

open Program (request)

/-- Locate the running executable and make sure that it can be replaced. -/
def preflight : Program Handle (Except PreflightError ExecutableSlot) :=
  (request .executablePath).orElse .executableNotFound |>.andThen fun path =>
  (request (.stat path)).orElse (.stat path) |>.andThen fun stat =>
  if stat.isWritable then .done (.ok ⟨path, stat.mode⟩)
  else .done (.error (.notWritable path stat.mode))

/-- Write all of some bytes to an open file, as many at a time as it takes. -/
def writeAll (handle : Handle) (bytes : Bytes) : Program Handle (Except Failure Unit) :=
  if bytes = [] then .done (.ok ())
  else
    .ask (.write handle bytes) fun
      | .error failure => .done (.error failure)
      | .ok 0 => .done (.error .nothingWritten)
      | .ok (count + 1) => writeAll handle (bytes.drop (count + 1))
termination_by bytes.length
decreasing_by
  have : bytes.length ≠ 0 := by simpa using ‹¬bytes = []›
  simp only [List.length_drop]
  omega

/-- Remove a path; a failure is only worth a notice. -/
def cleanUp (path : Path) : Program Handle Unit := do
  match ← request (.removeAll path) with
  | .ok () => return ()
  | .error failure => request (.notify (.removalFailed path failure))

/-- Run a program and then remove a path, however the program ended. -/
def cleaningUp {α : Type} (path : Path) (program : Program Handle α) :
    Program Handle α := do
  let value ← program
  cleanUp path
  return value

def writeStaged (path : Path) (binary : Bytes) (mode : UInt32) :
    Program Handle (Except InstallError Unit) :=
  ((request (.create path mode)).andThen fun handle =>
    (writeAll handle binary).andThen fun _ =>
    request (.flush handle)).orElse (.writeStaging path)

/-- The path next to the executable where the binary is staged if need be. -/
def siblingPath (executable : Path) : Path :=
  executable.extend siblingEnding

/-- Stage the binary on the executable's own file system and rename it from there. -/
def replaceFromSibling (slot : ExecutableSlot) (binary : Bytes) :
    Program Handle (Except InstallError Unit) :=
  let sibling := siblingPath slot.path
  cleaningUp sibling <|
    (writeStaged sibling binary slot.mode).andThen fun _ =>
    (request (.rename sibling slot.path)).orElse (.rename sibling slot.path)

/-- Rename the staged binary over the executable, or replace the executable from a
sibling if the two lie on different file systems. -/
def replace (scratch staged : Path) (slot : ExecutableSlot) (binary : Bytes) :
    Program Handle (Except InstallError Unit) := do
  match ← request (.rename staged slot.path) with
  | .ok () => return .ok ()
  | .error failure =>
      if failure.kind = .acrossDevices then
        request (.notify (.stagingNextToExecutable scratch slot.path))
        replaceFromSibling slot binary
      else return .error (.rename staged slot.path failure)

def scratchPath (temporary : Path) (name : String) : Path :=
  temporary.child (scratchPrefix ++ name).toList

/-- Put the binary in the place of the executable. -/
def install (slot : ExecutableSlot) (binary : Bytes) :
    Program Handle (Except InstallError Unit) := do
  let temporary ← request .temporaryDirectory
  let name ← request .freshName
  let scratch := scratchPath temporary name
  (request (.createDirectory scratch)).orElse (.scratchDirectory scratch) |>.andThen fun _ =>
  cleaningUp scratch <|
    let staged := scratch.child binaryName.toList
    (writeStaged staged binary slot.mode).andThen fun _ =>
    replace scratch staged slot binary

/-- Find out which version to install. A running version that cannot be read is worth a
notice. -/
def resolveVersion (updater : Updater) (options : UpdateOptions) :
    Program Handle (Except VersionError Resolution) :=
  let desired : Program Handle (Except VersionError Version) :=
    match Resolution.requested options.version with
    | some version => .done (Resolution.ofArgument version)
    | none => do return Resolution.ofReport (← request .report)
  desired.andThen fun desired => do
    match Version.parse updater.runningVersion with
    | .ok _ => pure ()
    | .error reason =>
        request (.notify (.runningVersionUnreadable updater.runningVersion reason))
    return .ok (Resolution.decide desired updater.runningVersion)

/-- Ask the user, unless told not to. -/
def confirmUpdate (options : UpdateOptions) (version : Version) :
    Program Handle (Except UpdateError Unit) := do
  if options.force then return .ok ()
  else
    match ← request (.confirm (confirmationLabel version)) with
    | .ok true => return .ok ()
    | .ok false => return .error (.notConfirmed version.finalized none)
    | .error reason => return .error (.notConfirmed version.finalized (some reason))

def Updater.archiveUrl (updater : Updater) (version : Version) : String :=
  (DownloadTarget.mk updater.platform version).url updater.downloadUrl

/-- Download an archive, unless the user cancels first. -/
def downloadArchive (url : String) : Program Handle (Except NetworkError Bytes) := do
  request (.notify (.downloading url))
  match ← request (.download url) with
  | some result => return result
  | none =>
      request (.notify (.downloadCancelled url))
      return .error (.cancelled url)

/-- Update the running executable. -/
def Updater.run (updater : Updater) (options : UpdateOptions) :
    Program Handle (Except UpdateError UpdateResult) :=
  preflight.orElse .preflight |>.andThen fun slot =>
  (resolveVersion updater options).orElse .version |>.andThen fun
    | .upToDate version => .done (.ok (.upToDate version.finalized))
    | .update _ version =>
        (confirmUpdate options version).andThen fun _ =>
        (downloadArchive (updater.archiveUrl version)).orElse .network |>.andThen fun archive =>
        let extracted := extractBinary updater.decoders archive
        Program.orElse (.done extracted) .archive |>.andThen fun binary =>
        (install slot binary).orElse .install |>.andThen fun _ =>
        .done (.ok (.updated updater.runningVersion version.finalized slot.path))

end SelfUpdate
