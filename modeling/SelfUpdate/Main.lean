import SelfUpdate.CommandLine.Help
import SelfUpdate.CommandLine.UpdateCommand
import SelfUpdate.Http.Message
import SelfUpdate.Update.RandomName
import Std.Async.DNS
import Std.Async.TCP

/-!
# The program

The program runs the command for an update on the machine it was started on. Only
what the operating system has to do is here: files, connections, the terminal and
chance. Encrypted connections are not made, so that exchanges which need one fail.
The system tells a program nothing about permission bits here; every file that is
there counts as having the bits of an executable that only its owner may replace.
-/

namespace SelfUpdate.Main

open SelfUpdate.CommandLine

/-- The number that the system gave to an error. -/
def systemCode : IO.Error → UInt32
  | .alreadyExists _ code _ | .otherError code _ | .resourceBusy code _
  | .resourceVanished code _ | .unsupportedOperation code _ | .hardwareFault code _
  | .unsatisfiedConstraints code _ | .illegalOperation code _ | .protocolError code _
  | .timeExpired code _ | .interrupted _ code _ | .noFileOrDirectory _ code _
  | .invalidArgument _ code _ | .permissionDenied _ code _ | .resourceExhausted _ code _
  | .inappropriateType _ code _ | .noSuchThing _ code _ => code
  | _ => 0

/-- An error of the system as a failure. -/
def failureOf (error : IO.Error) : Failure :=
  match SystemFault.ofCode? (systemCode error).toNat with
  | some fault => .system fault
  | none => .refused .other (toString error)

def attempt {α : Type} (action : IO α) : IO (Except Failure α) := do
  try return .ok (← action)
  catch error => return .error (failureOf error)

/-- The bits that every file counts as having. -/
def usualMode : UInt32 := 0o755

/-- What the system calls the rights in three permission bits. -/
def accessRight (bits : UInt32) : IO.AccessRight :=
  ⟨bits &&& 4 != 0, bits &&& 2 != 0, bits &&& 1 != 0⟩

/-- Create or empty a file with the given permission bits. -/
def createFile (path : String) (mode : UInt32) : IO IO.FS.Handle := do
  let handle ← IO.FS.Handle.mk path .write
  IO.setAccessRights path ⟨accessRight (mode >>> 6), accessRight (mode >>> 3), accessRight mode⟩
  return handle

def removeAll (path : String) : IO Unit := do
  try IO.FS.removeFile path
  catch error =>
    match SystemFault.ofCode? (systemCode error).toNat with
    | some .notFound => return ()
    | _ => IO.FS.removeDirAll path

/-- The system's addresses of a host. -/
def addressesOf (host : Url.Host) : IO (List Std.Net.IPAddr) := do
  match host with
  | .number value =>
      let byte (weight : Nat) : UInt8 := UInt8.ofNat (value / weight)
      return [.v4 (.ofParts (byte 0x1000000) (byte 0x10000) (byte 256) (byte 1))]
  | .name letters => do
      let found ← (Std.Async.DNS.getAddrInfo (String.ofList letters) "").block
      return found.toList

/-- Receive all that is sent until the connection is closed. -/
partial def receiveAll (client : Std.Async.TCP.Socket.Client) (received : ByteArray) :
    IO ByteArray := do
  match ← (client.recv? 65536).block with
  | none => return received
  | some bytes => receiveAll client (received ++ bytes)

/-- Send a request to a host and receive all that it answers. -/
def converse (address : Std.Net.IPAddr) (request : Http.Request) : IO Bytes := do
  let port := UInt16.ofNat request.address.port
  let client ← Std.Async.TCP.Socket.Client.mk
  let target : Std.Net.SocketAddress :=
    match address with
    | .v4 address => .v4 ⟨address, port⟩
    | .v6 address => .v6 ⟨address, port⟩
  (client.connect target).block
  (client.send ⟨request.message.toArray⟩).block
  return (← receiveAll client .empty).toList

def transport : Http.Transport IO := fun request => do
  if request.address.secure then return none
  try
    for address in ← addressesOf request.address.host do
      try return Http.Response.ofBytes? (← converse address request)
      catch _ => continue
    return none
  catch _ => return none

def present : Line → IO Unit
  | .result text => IO.println text
  | .complaint text => IO.eprintln text
  | .log level text => IO.println (levelName level ++ " " ++ text)

/-- Show notices in the log, unless it is silenced. -/
def log (quiet : Bool) (notices : List Notice) : IO Unit := do
  unless quiet do
    for notice in notices do present (.ofNotice notice)

/-- Put a question to the user on the terminal, if there is one. -/
def question (label : String) : IO (Except (List String) Bool) := do
  let errors ← IO.getStderr
  if ← errors.isTty then
    errors.putStr (label ++ " [y/N] ")
    errors.flush
    let reply ← (← IO.getStdin).getLine
    return .ok (reply.startsWith "y" || reply.startsWith "Y")
  else return .error [UpdateCommand.noTerminal]

/-- Answer a request of an update that a command runs. -/
def answer (command : UpdateCommand) (quiet : Bool) :
    (request : Request IO.FS.Handle) → IO (Option request.Answer)
  | .executablePath => do
      return some (← attempt do return Path.ofString (← IO.appPath).toString)
  | .temporaryDirectory => do
      return some (Path.ofString (SelfUpdate.temporaryDirectory (← IO.getEnv "TMPDIR")))
  | .stat path => do
      return some (← attempt do
        let _ ← IO.FS.realPath path.text
        return ⟨usualMode⟩)
  | .create path mode => do return some (← attempt (createFile path.text mode))
  | .write handle bytes => do
      return some (← attempt do
        handle.write ⟨bytes.toArray⟩
        return bytes.length)
  | .flush handle => do return some (← attempt handle.flush)
  | .createDirectory path => do return some (← attempt (IO.FS.createDirAll path.text))
  | .rename source target => do return some (← attempt (IO.FS.rename source.text target.text))
  | .removeAll path => do return some (← attempt (removeAll path.text))
  | .freshName => do return some (randomName (← IO.getRandomBytes 16).toList)
  | .report => do
      let (result, notices) ← command.report transport
      log quiet notices
      return some result
  | .confirm label => do return some (← question label)
  | .download url => do
      let (outcome, notices) ← command.download transport url
      log quiet notices
      return outcome.result?.map some
  | .notify notice => do return some (← log quiet [notice])

def relevantVariables : IO Variables := do
  let names := ["HOME", "CODER_HTTP_TIMEOUT_SECS", "CODER_DOWNLOAD_TIMEOUT_SECS",
    "CODER_RELEASE_URL", "CODER_RELEASE_API_URL", "CODER_RELEASE_REPO_OWNER",
    "CODER_RELEASE_REPO_NAME"]
  let settings ← names.mapM fun name => do
    return (← IO.getEnv name).map fun value => (name, Bytes.ofString value)
  return settings.filterMap id

/-- What is found at a path. What cannot be looked at counts as missing. -/
def userFile (path : Path) : IO UserFile := do
  match ← attempt (IO.FS.realPath path.text) with
  | .error _ => return .missing
  | .ok _ =>
      match ← attempt (IO.FS.readBinFile path.text) with
      | .error reason => return .unreadable reason
      | .ok bytes => return .content bytes.toList

/-- Tell a chain on standard error; the exit code says whether there is one. -/
def fail (chain : List String) : IO UInt32 := do
  for line in chainLines chain do IO.eprintln line
  return if chain.isEmpty then 0 else 1

def runCommand (invocation : Invocation) : IO UInt32 := do
  let environment ← relevantVariables
  let found ← match settingsDirectory environment with
    | .ok directory => userFile (settingsFile directory)
    | .error _ => pure .missing
  match UpdateCommand.prepare environment fun _ => found with
  | .error chain => fail chain
  | .ok command =>
      present command.greeting
      let options : UpdateOptions := ⟨invocation.force, invocation.version⟩
      match ← (command.updater.run options).runIn (answer command invocation.quiet) with
      | none => return 1
      | some result =>
          let (lines, chain) := UpdateCommand.conclude result
          for line in lines do present line
          fail chain

def runProgram (arguments : List String) : IO UInt32 := do
  match Invocation.ofArguments arguments with
  | .ok invocation => runCommand invocation
  | .error deviation =>
      for line in deviation.answer do IO.println line
      match deviation.complaint with
      | some complaint => IO.eprintln ("error: " ++ complaint)
      | none => pure ()
      return deviation.exitCode.toUInt32

end SelfUpdate.Main

def main (arguments : List String) : IO UInt32 :=
  SelfUpdate.Main.runProgram arguments
