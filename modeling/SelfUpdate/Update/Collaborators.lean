import SelfUpdate.FileSystem.Memory
import SelfUpdate.Update.Program
import SelfUpdate.Update.Race

/-!
# An update in memory

Besides the file system, one run of an update deals with the release host, with the
user, and with chance. How they behave in that run is given by a record of
collaborators, without any restriction: they may refuse, fail, or never answer.

With such a record, and with the program's view of a file system in memory, every
request of an update has an answer. Only requests for file operations change the
memory.
-/

namespace SelfUpdate

/-- How everyone but the file system behaves in one run. Whoever never answers has no
answer. -/
structure Collaborators where
  name : String
  report : Option (Except (List String) String)
  confirm : String → Option (Except (List String) Bool)
  transfer : String → Transfer (Except NetworkError Bytes)
  signal : Signal

namespace Collaborators

/-- How the download of an archive ends: with the transfer's result, or with the user's
signal if that comes first. -/
def download (collaborators : Collaborators) (url : String) :
    Option (Option (Except NetworkError Bytes)) :=
  match race collaborators.signal (collaborators.transfer url) with
  | .cancelled => some none
  | .finished result => some (some result)
  | .endless => none

/-- The result of an operation on a memory, as an answer. -/
def answered {α : Type} (result : α × Memory) : Option α × Memory :=
  (some result.1, result.2)

/-- Answer the requests of an update on a file system in memory. -/
def handler (collaborators : Collaborators) (host : Host) : Handler Writer Memory
  | .executablePath, memory => (some (.ok host.executable), memory)
  | .temporaryDirectory, memory => (some host.temporary, memory)
  | .stat path, memory => (some (memory.stat path), memory)
  | .create path mode, memory => answered (memory.create path mode)
  | .write handle bytes, memory => answered (memory.write handle bytes)
  | .flush _, memory => (some (.ok ()), memory)
  | .createDirectory path, memory => (some (.ok ()), memory.createDirectory path)
  | .rename source target, memory => answered (memory.rename host source target)
  | .removeAll path, memory => (some (.ok ()), memory.removeAll path)
  | .freshName, memory => (some collaborators.name, memory)
  | .report, memory => (collaborators.report, memory)
  | .confirm label, memory => (collaborators.confirm label, memory)
  | .download url, memory => (collaborators.download url, memory)
  | .notify _, memory => (some (), memory)

end Collaborators

end SelfUpdate
