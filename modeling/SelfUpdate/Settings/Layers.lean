import SelfUpdate.FileSystem.Disk.Operations
import SelfUpdate.Settings.Document
import SelfUpdate.Settings.Error
import SelfUpdate.Text.QuotedBytes

/-!
# Where settings come from

Settings come in layers. The lowest is the user's settings file, or a document that
is part of the program if there is no such file. Environment variables go on top of
it, each for one setting.
-/

namespace SelfUpdate

/-- The environment variables of a process. The first one of a name counts. -/
abbrev Variables := List (String × Bytes)

/-- The text of a variable. One that is not valid UTF-8 counts as not set. -/
def Variables.text? (environment : Variables) (name : String) : Option String :=
  (environment.lookup name).bind Text.decodeUtf8?

/-- The settings document that is part of the program. -/
def builtinDocument : String :=
  "\n".intercalate
    ["# Built-in runtime defaults for the coder CLI.",
      "# Override in ~/.coder/coder-runtime.yaml or with CODER_* environment variables.",
      "",
      "network:",
      "  http-timeout-secs: 30",
      "  download-timeout-secs: 10",
      "",
      "release:",
      "  download-url: \"https://github.com/cdr/coder-cli\"",
      "  api-url: \"https://api.github.com\"",
      "  repo-owner: \"cdr\"",
      "  repo-name: \"coder-cli\"",
      ""]

def builtinDocumentName : String := "runtime-defaults.yaml"

def settingsDirectoryName : String := ".coder"

def settingsFileName : String := "coder-runtime.yaml"

def settingsDirectory (environment : Variables) : Except SettingsError Path :=
  match environment.lookup "HOME" with
  | none => .error (.invalid "Could not determine home directory")
  | some home =>
      match Text.decodeUtf8? home with
      | some home => .ok ((Path.ofString home).child settingsDirectoryName.toList)
      | none => .error (.invalid ("Non UTF-8 home directory: " ++ Text.quotedBytes home))

def settingsFile (directory : Path) : Path :=
  directory.child settingsFileName.toList

/-- What is found where the user's settings file should be. -/
inductive UserFile where
  | missing
  | unreadable (reason : Failure)
  | content (bytes : Bytes)
  deriving DecidableEq, Repr

/-- What is found at a path of a disk. What cannot be looked at counts as missing. -/
def UserFile.ofDisk (disk : Disk) (path : Path) : UserFile :=
  match disk.stat path, disk.contentAt path with
  | .error _, _ => .missing
  | .ok _, .error reason => .unreadable reason
  | .ok _, .ok bytes => .content bytes

namespace Settings

/-- The lowest layer: what the file at a path says, or the built-in document. -/
def ofFile (path : Path) : UserFile → Except SettingsError Settings
  | .missing =>
      match ofText? builtinDocument with
      | some settings => .ok settings
      | none => .error (.invalid ("Failed to parse built-in " ++ builtinDocumentName))
  | .unreadable reason => .error (.unreadable reason)
  | .content bytes =>
      match Text.decodeUtf8? bytes with
      | none => .error (.unreadable .notUnicode)
      | some text =>
          match ofText? text with
          | some settings => .ok settings
          | none => .error (.invalid ("Failed to parse " ++ path.text))

/-- A number of seconds in decimal digits, which may follow a plus sign. -/
def readSeconds (text : String) : Option UInt64 :=
  digitsNumber 10 (dropPlus text.toList)

/-- The number of seconds that a variable sets. -/
def secondsFrom (environment : Variables) (name : String) :
    Except SettingsError (Option UInt64) :=
  match environment.text? name with
  | none => .ok none
  | some text =>
      match readSeconds text with
      | some seconds => .ok (some seconds)
      | none => .error (.invalid (name ++ " must be a valid number"))

/-- The settings with those that environment variables set. -/
def override (settings : Settings) (environment : Variables) : Except SettingsError Settings := do
  let httpTimeout ← secondsFrom environment "CODER_HTTP_TIMEOUT_SECS"
  let downloadTimeout ← secondsFrom environment "CODER_DOWNLOAD_TIMEOUT_SECS"
  let network := settings.network
  let release := settings.release
  return {
    network := {
      httpTimeout := httpTimeout.getD network.httpTimeout
      downloadTimeout := downloadTimeout.getD network.downloadTimeout
      userAgent := network.userAgent }
    release := {
      downloadUrl := (environment.text? "CODER_RELEASE_URL").getD release.downloadUrl
      apiUrl := (environment.text? "CODER_RELEASE_API_URL").getD release.apiUrl
      repositoryOwner :=
        (environment.text? "CODER_RELEASE_REPO_OWNER").getD release.repositoryOwner
      repositoryName :=
        (environment.text? "CODER_RELEASE_REPO_NAME").getD release.repositoryName } }

/-- All layers of the settings: the user's file in a directory, found as given, and the
environment variables. -/
def load (directory : Path) (file : UserFile) (environment : Variables) :
    Except SettingsError Settings := do
  (← ofFile (settingsFile directory) file).override environment

end Settings

end SelfUpdate
