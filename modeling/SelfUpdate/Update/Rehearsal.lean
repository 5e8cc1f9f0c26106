import SelfUpdate.Update.Collaborators
import SelfUpdate.Update.Pipeline

/-!
# Rehearsing an update in memory

A rehearsal runs an update on a file system in memory. A script says what the
release host and the user answer, when the user cancels, and which calls are
refused before they reach the file system. The rehearsal keeps a record of
everything the update asked for.
-/

namespace SelfUpdate

/-- Calls that are refused before they reach the file system. Files cannot be created at or
below one path. -/
structure Refusals where
  executablePath : Bool
  createDirectory : Bool
  createBelow : Option Path
  removal : Bool
  flush : Bool
  deriving DecidableEq, Repr

def Refusals.none : Refusals := ⟨false, false, .none, false, false⟩

/-- How the question for confirmation is answered: there is nobody to ask, or it is accepted
unseen, or shown and answered. -/
inductive Gate where
  | absent
  | open
  | shown (answer : Except (List String) Bool)

/-- The reason why nobody can be asked. -/
def Gate.absentReason : String := "no interactive terminal available"

def Gate.answer : Gate → Except (List String) Bool
  | .absent => .error [absentReason]
  | .open => .ok true
  | .shown answer => answer

def Gate.shows : Gate → Bool
  | .shown _ => true
  | _ => false

/-- How a scripted download ends. -/
inductive ScriptedDownload where
  | status (code : Nat)
  | tooLarge (limit : UInt64)
  | archive (bytes : Bytes)
  deriving DecidableEq, Repr

def ScriptedDownload.result (url : String) : ScriptedDownload → Except NetworkError Bytes
  | .status code => .error (.status url code)
  | .tooLarge limit => .error (.tooLarge url limit)
  | .archive bytes => .ok bytes

/-- What answers an update in a rehearsal. -/
structure Script where
  host : Host
  refusals : Refusals
  report : Except (List String) String
  gate : Gate
  transfer : Transfer ScriptedDownload
  signal : Signal

/-- A call on the file system, as a rehearsal records it. -/
inductive RecordedCall where
  | executablePath
  | stat (path : Path)
  | createDirectory (path : Path)
  | create (path : Path) (mode : UInt32)
  | write (size : Nat)
  | flush
  | rename (source target : Path)
  | removeAll (path : Path)
  deriving DecidableEq, Repr

def RecordedCall.text : RecordedCall → String
  | .executablePath => "executable_path"
  | .stat path => "stat " ++ path.text
  | .createDirectory path => "create_dir " ++ path.text
  | .create path mode => "create " ++ path.text ++ " " ++ octal mode
  | .write size => "write " ++ toString size
  | .flush => "flush"
  | .rename source target => "rename " ++ source.text ++ " -> " ++ target.text
  | .removeAll path => "remove_all " ++ path.text

/-- The state of a rehearsal: the file system, how many names have been handed out, and the
record of what was asked for, the latest first. -/
structure Stage where
  memory : Memory
  names : Nat
  calls : List RecordedCall
  reports : Nat
  questions : List String
  urls : List String
  notices : List Notice

namespace Stage

def ofMemory (memory : Memory) (names : Nat) : Stage :=
  ⟨memory, names, [], 0, [], [], []⟩

def record (stage : Stage) (call : RecordedCall) : Stage :=
  { stage with calls := call :: stage.calls }

end Stage

namespace Refusals

def failure (reason : String) : Failure :=
  .refused .permissionDenied reason

/-- Whether the creation of a file is refused. -/
def refusesCreation (refusals : Refusals) (path : Path) : Bool :=
  refusals.createBelow.any path.liesIn

/-- The answer to a request that is refused. -/
def answer? (refusals : Refusals) : (request : Request Writer) → Option request.Answer
  | .executablePath =>
      if refusals.executablePath then some (.error (.refused .notFound "no executable")) else .none
  | .create path _ =>
      if refusals.refusesCreation path then some (.error (failure "create refused")) else .none
  | .flush _ => if refusals.flush then some (.error (failure "flush refused")) else .none
  | .createDirectory _ =>
      if refusals.createDirectory then some (.error (failure "create_dir refused")) else .none
  | .removeAll _ => if refusals.removal then some (.error (failure "remove refused")) else .none
  | _ => .none

end Refusals

/-- The name that a rehearsal hands out as its `number`-th one. -/
def rehearsalName (number : Nat) : String :=
  "<uuid" ++ toString number ++ ">"

namespace Script

/-- How everyone behaves by the script, after some names have been handed out. -/
def collaborators (script : Script) (names : Nat) : Collaborators where
  name := rehearsalName (names + 1)
  report := some script.report
  confirm _ := some script.gate.answer
  transfer url := script.transfer.map fun (turn, download) => (turn, download.result url)
  signal := script.signal

/-- Keep a record of a request. -/
def note (script : Script) : Request Writer → Stage → Stage
  | .executablePath, stage => stage.record .executablePath
  | .temporaryDirectory, stage => stage
  | .stat path, stage => stage.record (.stat path)
  | .create path mode, stage => stage.record (.create path mode)
  | .write _ bytes, stage => stage.record (.write bytes.length)
  | .flush _, stage => stage.record .flush
  | .createDirectory path, stage => stage.record (.createDirectory path)
  | .rename source target, stage => stage.record (.rename source target)
  | .removeAll path, stage => stage.record (.removeAll path)
  | .freshName, stage => { stage with names := stage.names + 1 }
  | .report, stage => { stage with reports := stage.reports + 1 }
  | .confirm label, stage =>
      if script.gate.shows then { stage with questions := label :: stage.questions } else stage
  | .download url, stage =>
      if transferBegins script.signal then { stage with urls := url :: stage.urls } else stage
  | .notify notice, stage => { stage with notices := notice :: stage.notices }

/-- Answer a request by the script. -/
def handler (script : Script) : Handler Writer Stage := fun request stage =>
  let noted := script.note request stage
  match script.refusals.answer? request with
  | some answer => (some answer, noted)
  | none =>
      let (answer, memory) :=
        (script.collaborators stage.names).handler script.host request stage.memory
      (answer, { noted with memory := memory })

end Script

end SelfUpdate
