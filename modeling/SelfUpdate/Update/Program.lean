import SelfUpdate.FileSystem.Node
import SelfUpdate.Update.Error
import SelfUpdate.Update.Notice

/-!
# Updates as programs of requests

An update acts on the world only through requests: it asks the environment for a
file operation, the release host for a version or an archive, or the user for a
decision, and goes on with the answer. A program is such a sequence of requests,
each next one depending on the answers so far.

What a request does is decided by a handler, which keeps a state of its own. So
the same update runs on the operating system, on a file system in memory, or on
anything else that can answer.
-/

namespace SelfUpdate

/-- What an update may ask for. `Handle` is what the environment hands out for an open file, and
a fresh name has never been used before. -/
inductive Request (Handle : Type) where
  | executablePath
  | temporaryDirectory
  | stat (path : Path)
  | create (path : Path) (mode : UInt32)
  | write (handle : Handle) (bytes : Bytes)
  | flush (handle : Handle)
  | createDirectory (path : Path)
  | rename (source target : Path)
  | removeAll (path : Path)
  | freshName
  | report
  | confirm (label : String)
  | download (url : String)
  | notify (notice : Notice)

/-- What a request is answered with: a write with how many bytes were taken, a download with
nothing if the user cancels first. A chain of messages tells why no tag was reported or no
question answered. -/
abbrev Request.Answer {Handle : Type} : Request Handle → Type
  | .executablePath => Except Failure Path
  | .temporaryDirectory => Path
  | .stat _ => Except Failure FileStat
  | .create _ _ => Except Failure Handle
  | .write _ _ => Except Failure Nat
  | .flush _ => Except Failure Unit
  | .createDirectory _ => Except Failure Unit
  | .rename _ _ => Except Failure Unit
  | .removeAll _ => Except Failure Unit
  | .freshName => String
  | .report => Except (List String) String
  | .confirm _ => Except (List String) Bool
  | .download _ => Option (Except NetworkError Bytes)
  | .notify _ => Unit

/-- A program that makes requests and ends with a value. -/
inductive Program (Handle : Type) (α : Type) where
  | done (value : α)
  | ask (request : Request Handle) (next : request.Answer → Program Handle α)

/-- What answers the requests of a program, with a state that requests may change. A
request that is never answered has no answer; the program then never ends. -/
abbrev Handler (Handle σ : Type) :=
  (request : Request Handle) → σ → Option request.Answer × σ

namespace Program

variable {Handle : Type} {α β ε σ : Type}

/-- Run one program and then another that depends on its value. -/
def bind : Program Handle α → (α → Program Handle β) → Program Handle β
  | .done value, next => next value
  | .ask request rest, next => .ask request fun answer => (rest answer).bind next

instance : Monad (Program Handle) where
  pure := .done
  bind := bind

/-- The program that makes one request and ends with its answer. -/
def request (request : Request Handle) : Program Handle request.Answer :=
  .ask request .done

/-- Go on with the value of a program that has not failed. -/
def andThen (program : Program Handle (Except ε α))
    (next : α → Program Handle (Except ε β)) : Program Handle (Except ε β) :=
  program.bind fun
    | .ok value => next value
    | .error error => .done (.error error)

/-- Say in other words how a program failed. -/
def orElse (program : Program Handle (Except ε α)) {δ : Type} (explain : ε → δ) :
    Program Handle (Except δ α) :=
  program.bind fun result => .done (result.mapError explain)

/-- Run a program with a handler. The state is what the handler has made of it in the
end. -/
def run (handler : Handler Handle σ) : Program Handle α → σ → Option α × σ
  | .done value, state => (some value, state)
  | .ask request next, state =>
      match handler request state with
      | (some answer, state) => (next answer).run handler state
      | (none, state) => (none, state)

/-- Run a program where its requests are answered by actions. -/
def runIn {m : Type → Type} [Monad m]
    (answer : (request : Request Handle) → m (Option request.Answer)) {α : Type} :
    Program Handle α → m (Option α)
  | .done value => return some value
  | .ask request next => do
      match ← answer request with
      | some answer' => (next answer').runIn answer
      | none => return none

/-- The states that a run passes through, from the first to the last. -/
def states (handler : Handler Handle σ) : Program Handle α → σ → List σ
  | .done _, state => [state]
  | .ask request next, state =>
      match handler request state with
      | (some answer, after) => state :: (next answer).states handler after
      | (none, after) => [state, after]

end Program

end SelfUpdate
