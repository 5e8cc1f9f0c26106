import SelfUpdate.Release.Fetch
import SelfUpdate.Release.Report
import SelfUpdate.Settings.Layers
import SelfUpdate.Update.Pipeline

/-!
# The command for an update

The command loads the settings, tells which version is running, updates the
program, and tells how that ended. A failure is told as a chain: what failed, and
the messages of what caused it.
-/

namespace SelfUpdate.CommandLine

/-- A line that the command shows: a result on standard output, a complaint on standard error,
or a line of the log. -/
inductive Line where
  | result (text : String)
  | log (level : NoticeLevel) (text : String)
  | complaint (text : String)
  deriving DecidableEq, Repr

/-- The lines that tell a chain on standard error. Several causes are numbered. -/
def chainLines : List String → List String
  | [] => []
  | [message] => ["Error: " ++ message]
  | [message, cause] => ["Error: " ++ message, "", "Caused by:", "    " ++ cause]
  | message :: causes =>
      ["Error: " ++ message, "", "Caused by:"] ++
        causes.zipIdx.map fun (cause, number) =>
          "    " ++ toString number ++ ": " ++ cause

def Line.ofNotice (notice : Notice) : Line :=
  .log notice.level notice.message

def levelName : NoticeLevel → String
  | .info => "INFO"
  | .warning => "WARN"

/-- What the command works with, after the settings have been loaded. -/
structure UpdateCommand where
  updater : Updater
  host : ReleaseHost
  userAgent : String

namespace UpdateCommand

/-- The command with some settings, if the program can call itself as they say. -/
def ofSettings? (settings : Settings) : Option UpdateCommand :=
  if Http.isUserAgent settings.network.userAgent then
    some {
      updater := ⟨programVersion, settings.release.downloadUrl, hostPlatform, .none⟩
      host := .ofSettings settings.release
      userAgent := settings.network.userAgent }
  else none

/-- A settings error as a chain that begins with what it made impossible. -/
def settingsChain (failed : String) (error : SettingsError) : List String :=
  failed :: error.message :: error.causes

/-- Prepare the command from environment variables and from what is found at the path of
the user's settings file. -/
def prepare (environment : Variables) (find : Path → UserFile) :
    Except (List String) UpdateCommand := do
  let directory ← (settingsDirectory environment).mapError
    (settingsChain "Failed to create config loader")
  let settings ← (Settings.load directory (find (settingsFile directory)) environment).mapError
    (settingsChain "Failed to load runtime config")
  match ofSettings? settings with
  | some command => return command
  | none => .error ["Failed to create HTTP client"]

/-- What the command shows before the update. -/
def greeting (command : UpdateCommand) : Line :=
  .result ("ℹ Current version: " ++ command.updater.runningVersion)

/-- Why a question cannot be answered when there is no terminal. -/
def noTerminal : String := "IO error: not a terminal"

/-- What is shown of a finished update, and the chain if it failed. -/
def conclude : Except UpdateError UpdateResult → List Line × List String
  | .ok (.upToDate _) => ([.result "✓ Up to date!"], [])
  | .ok (.updated _ release _) =>
      ([.result ("✓ Updated coder CLI to version " ++ release)], [])
  | .error error =>
      (error.tip.elim [] fun tip => [.complaint "✗ update aborted", .complaint ("tip: " ++ tip)],
        ("update failed during " ++ error.stage.name) :: error.message :: error.causes)

variable {m : Type → Type} [Monad m]

/-- Ask the release host for the latest tag, and note its answer. -/
def report (command : UpdateCommand) (transport : Http.Transport m) :
    m (Except (List String) String × List Notice) := do
  match ← command.host.report transport command.userAgent with
  | .ok tag => return (.ok tag, [.releaseReported command.host.name tag])
  | .error error => return (.error error.causes, [])

/-- Fetch an archive, and note its size. -/
def download (command : UpdateCommand) (transport : Http.Transport m) (url : String) :
    m (FetchOutcome × List Notice) := do
  match ← fetchArchive transport command.userAgent url maxDownloadSize with
  | .fetched archive => return (.fetched archive, [.downloaded archive.length url])
  | outcome => return (outcome, [])

end UpdateCommand

end SelfUpdate.CommandLine
