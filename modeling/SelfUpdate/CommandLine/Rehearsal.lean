import SelfUpdate.CommandLine.Help
import SelfUpdate.CommandLine.UpdateCommand
import SelfUpdate.Http.FixedServer
import SelfUpdate.Update.Rehearsal

/-!
# Rehearsing the program on a described machine

A machine is described by its disk, by what a server with fixed answers says, and by
where the executable and temporary files lie. The program runs on it as it would on
a real one, and all that it shows is kept. An update that is interrupted while it
downloads is cancelled.
-/

namespace SelfUpdate.CommandLine

/-- What does not change about a machine. -/
structure Site where
  executable : Path
  temporary : Path
  server : Http.FixedServer
  gate : Gate

/-- What changes about a machine: its disk, the number of names that have been handed out, and
records of what has happened, the latest first. -/
structure Machine where
  disk : Disk
  server : Http.ServerRecord
  names : Nat
  shown : List Line

namespace Machine

def ofDisk (disk : Disk) : Machine := ⟨disk, .empty, 0, []⟩

def tell (machine : Machine) (line : Line) : Machine :=
  { machine with shown := line :: machine.shown }

def note (machine : Machine) (notices : List Notice) : Machine :=
  notices.foldl (fun machine notice => machine.tell (.ofNotice notice)) machine

/-- The result of an operation on the disk, and the machine after it. -/
def keep {α : Type} (machine : Machine) (result : α × Disk) : Option α × Machine :=
  (some result.1, { machine with disk := result.2 })

/-- The result of an exchange with the server, and the machine after it. -/
def exchange {α : Type} (machine : Machine)
    (action : StateM Http.ServerRecord (α × List Notice)) : α × Machine :=
  let ((value, notices), record) := action.run machine.server
  (value, { machine with server := record }.note notices)

end Machine

namespace Site

/-- Answer a request of an update that a command runs. -/
def handler (site : Site) (command : UpdateCommand) : Handler DiskWriter Machine
  | .executablePath, machine => (some (.ok site.executable), machine)
  | .temporaryDirectory, machine => (some site.temporary, machine)
  | .stat path, machine => (some (machine.disk.stat path), machine)
  | .create path mode, machine => machine.keep (machine.disk.create path mode)
  | .write handle bytes, machine => machine.keep (machine.disk.write handle bytes)
  | .flush _, machine => (some (.ok ()), machine)
  | .createDirectory path, machine => machine.keep (machine.disk.createDirectory path)
  | .rename source target, machine => machine.keep (machine.disk.rename source target)
  | .removeAll path, machine => machine.keep (machine.disk.removeAll path)
  | .freshName, machine =>
      let number := machine.names + 1
      (some (rehearsalName number), { machine with names := number })
  | .report, machine =>
      let (result, machine) := machine.exchange (command.report site.server.transport)
      (some result, machine)
  | .confirm _, machine => (some site.gate.answer, machine)
  | .download url, machine =>
      let (outcome, machine) := machine.exchange (command.download site.server.transport url)
      let heeded result := if machine.server.interrupted then none else some result
      (outcome.result?.map heeded, machine)
  | .notify notice, machine => (some (), machine.note [notice])

def update (site : Site) (command : UpdateCommand) (options : UpdateOptions)
    (machine : Machine) : Option (Except UpdateError UpdateResult) × Machine :=
  (command.updater.run options).run (site.handler command) machine

/-- Run the command for an update. The chain of the failure is empty if there is none. -/
def runCommand (site : Site) (environment : Variables) (options : UpdateOptions)
    (machine : Machine) : List String × Machine :=
  match UpdateCommand.prepare environment (UserFile.ofDisk machine.disk) with
  | .error chain => (chain, machine)
  | .ok command =>
      match site.update command options (machine.tell command.greeting) with
      | (none, machine) => ([], machine)
      | (some result, machine) =>
          let (lines, chain) := UpdateCommand.conclude result
          (chain, lines.foldl Machine.tell machine)

end Site

structure Ending where
  exitCode : UInt8
  chain : List String
  machine : Machine

/-- The lines that are left when the log is silenced. -/
def withoutLog (lines : List Line) : List Line :=
  lines.filter fun line => match line with
    | .log _ _ => false
    | _ => true

/-- Run the program with some arguments. Wrong usage is told by the exit code alone. -/
def Site.runProgram (site : Site) (environment : Variables) (arguments : List String)
    (machine : Machine) : Ending :=
  match Invocation.ofArguments arguments with
  | .error deviation =>
      ⟨deviation.exitCode, [],
        deviation.answer.foldl (fun machine text => machine.tell (.result text)) machine⟩
  | .ok invocation =>
      let (chain, machine) :=
        site.runCommand environment ⟨invocation.force, invocation.version⟩ machine
      let shown := if invocation.quiet then withoutLog machine.shown else machine.shown
      ⟨if chain.isEmpty then 0 else 1, chain, { machine with shown := shown }⟩

end SelfUpdate.CommandLine
