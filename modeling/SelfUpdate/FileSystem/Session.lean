import SelfUpdate.FileSystem.Memory

/-!
# Sequences of calls on a shared file system

A session runs calls on one memory through any number of named hosts and named
writers. A call that names a host or writer which does not exist does nothing.
-/

namespace SelfUpdate

/-- A call on a file system that several hosts share. -/
inductive SessionCall where
  | addFile (path : Path) (content : Bytes) (mode : UInt32)
  | failWrites (directory : Path)
  | failRenames
  | separateTemporary
  | duplicate (name : String)
  | executablePath
  | temporaryDirectory
  | stat (path : Path)
  | read (path : Path)
  | mode (path : Path)
  | create (path : Path) (mode : UInt32) (writer : String)
  | write (writer : String) (bytes : Bytes)
  | flush (writer : String)
  | createDirectory (path : Path)
  | rename (source target : Path)
  | removeAll (path : Path)
  deriving Repr

/-- What a call on a shared file system answers. -/
inductive SessionReply where
  | done
  | failed (failure : Failure)
  | written (count : Nat)
  | path (path : Path)
  | stat (stat : FileStat)
  | content (bytes : Option Bytes)
  | mode (mode : Option UInt32)
  | noHost
  | noWriter
  deriving DecidableEq, Repr

/-- A shared file system with its hosts and open files, each under a name. The entry
added last counts. -/
structure Session where
  memory : Memory
  hosts : List (String × Host)
  writers : List (String × Writer)

namespace Session

def start (name : String) (host : Host) : Session :=
  ⟨.initial host, [(name, host)], []⟩

/-- The session in which a name stands for another host. -/
def setHost (session : Session) (name : String) (host : Host) : Session :=
  { session with hosts := (name, host) :: session.hosts }

def replyTo : Except Failure Unit → SessionReply
  | .ok () => .done
  | .error failure => .failed failure

/-- Run one call through the host of a name. -/
def step (session : Session) (hostName : String) (call : SessionCall) :
    SessionReply × Session :=
  match session.hosts.lookup hostName with
  | none => (.noHost, session)
  | some host =>
      let memory := session.memory
      match call with
      | .addFile path content mode =>
          (.done, { session with memory := memory.addFile path content mode })
      | .failWrites directory =>
          (.done, { session with memory := { memory with failingWrites := some directory } })
      | .failRenames =>
          (.done, { session with memory := { memory with failingRenames := true } })
      | .separateTemporary =>
          (.done, session.setHost hostName { host with separateTemporary := true })
      | .duplicate name => (.done, session.setHost name host)
      | .executablePath => (.path host.executable, session)
      | .temporaryDirectory => (.path host.temporary, session)
      | .stat path =>
          match memory.stat path with
          | .ok stat => (.stat stat, session)
          | .error failure => (.failed failure, session)
      | .read path => (.content (memory.read path), session)
      | .mode path => (.mode (memory.mode path), session)
      | .create path mode name =>
          match memory.create path mode with
          | (.ok writer, memory) =>
              (.done, { session with memory, writers := (name, writer) :: session.writers })
          | (.error failure, memory) => (.failed failure, { session with memory })
      | .write name bytes =>
          match session.writers.lookup name with
          | none => (.noWriter, session)
          | some writer =>
              match memory.write writer bytes with
              | (.ok count, memory) => (.written count, { session with memory })
              | (.error failure, memory) => (.failed failure, { session with memory })
      | .flush name =>
          match session.writers.lookup name with
          | none => (.noWriter, session)
          | some _ => (.done, session)
      | .createDirectory path =>
          (.done, { session with memory := memory.createDirectory path })
      | .rename source target =>
          let (result, memory) := memory.rename host source target
          (replyTo result, { session with memory })
      | .removeAll path => (.done, { session with memory := memory.removeAll path })

/-- Run calls in order, each through the host it names, and collect the replies. -/
def run (session : Session) : List (String × SessionCall) → List SessionReply × Session
  | [] => ([], session)
  | (hostName, call) :: rest =>
      let (reply, session) := session.step hostName call
      let (replies, session) := session.run rest
      (reply :: replies, session)

end Session

end SelfUpdate
