/-!
# Arguments of the program

The program has one command, which updates it, and another that shows help pages.
Arguments are read from left to right, and the first one that asks for help or for
the version, or that is wrong, decides. An option takes its value after an equals
sign or from the next argument, if that does not look like an option. After two
dashes nothing counts as an option any more.

A value taken from the next argument is stored only when a further option or the
end is reached. So a missing or repeated value is noticed after a mistake that
directly follows it.
-/

namespace SelfUpdate.CommandLine

inductive Page where
  | program
  | update
  | help
  deriving DecidableEq, Repr

/-- Why the arguments do not lead to an update. -/
inductive Deviation where
  | help (page : Page)
  | programVersion
  | nothingGiven
  | noCommand
  | unknownCommand (word : String)
  | unknownArgument (argument : String)
  | missingValue
  | unexpectedValue
  | repeated
  deriving DecidableEq, Repr

/-- What the arguments say about an update. -/
structure Invocation where
  verbosity : Nat
  quiet : Bool
  force : Bool
  version : Option String
  deriving DecidableEq, Repr

/-- The places where options may stand: before the command or after it. -/
inductive Place where
  | program
  | update
  deriving DecidableEq, Repr

inductive Choice where
  | verbose
  | quiet
  | help
  | programVersion
  | force
  | version
  deriving DecidableEq, Repr

/-- The option that a letter after one dash stands for. -/
def Choice.ofLetter? (place : Place) (letter : Char) : Option Choice :=
  match letter, place with
  | 'v', _ => some .verbose
  | 'q', _ => some .quiet
  | 'h', _ => some .help
  | 'V', .program => some .programVersion
  | _, _ => none

/-- The option that a name after two dashes stands for. -/
def Choice.ofName? (place : Place) (name : String) : Option Choice :=
  match name, place with
  | "verbose", _ => some .verbose
  | "quiet", _ => some .quiet
  | "help", _ => some .help
  | "version", .program => some .programVersion
  | "version", .update => some .version
  | "force", .update => some .force
  | _, _ => none

/-- An option whose value has not been stored yet, or has not come yet. -/
inductive Pending where
  | absent
  | awaited
  | value (text : String)
  deriving DecidableEq, Repr

/-- What has been given at one place so far. -/
structure Given where
  invocation : Invocation
  pending : Pending
  deriving DecidableEq, Repr

namespace Given

def nothing : Given := ⟨⟨0, false, false, none⟩, .absent⟩

def maxVerbosity : Nat := 255

def store (given : Given) (version : String) : Except Deviation Given :=
  if given.invocation.version.isSome then .error .repeated
  else .ok ⟨{ given.invocation with version := some version }, .absent⟩

/-- Store the value that has not been stored yet, if there is one. -/
def settle (given : Given) : Except Deviation Given :=
  match given.pending with
  | .absent => .ok given
  | .awaited => .error .missingValue
  | .value text => given.store text

/-- Carry out an option without a value. -/
def choose (place : Place) (given : Given) (choice : Choice) : Except Deviation Given := do
  let given ← given.settle
  let invocation := given.invocation
  match choice with
  | .verbose =>
      let verbosity := min (invocation.verbosity + 1) maxVerbosity
      return { given with invocation := { invocation with verbosity := verbosity } }
  | .quiet =>
      if invocation.quiet then .error .repeated
      else return { given with invocation := { invocation with quiet := true } }
  | .force =>
      if invocation.force then .error .repeated
      else return { given with invocation := { invocation with force := true } }
  | .help => .error (.help (if place = .program then .program else .update))
  | .programVersion => .error .programVersion
  | .version => return { given with pending := .awaited }

/-- Carry out an option with a value after an equals sign. -/
def assign (given : Given) (choice : Choice) (value : String) : Except Deviation Given :=
  if choice = .version then do (← given.settle).store value
  else .error .unexpectedValue

/-- Carry out the letters after one dash. -/
def readLetters (place : Place) (given : Given) (letters : List Char) :
    Except Deviation Given :=
  letters.foldlM (fun given letter =>
    match Choice.ofLetter? place letter with
    | some choice => given.choose place choice
    | none => .error (.unknownArgument (String.ofList ['-', letter]))) given

/-- Carry out what follows two dashes. -/
def readName (place : Place) (given : Given) (text : List Char) : Except Deviation Given :=
  let (name, value) := text.span (· != '=')
  match Choice.ofName? place (String.ofList name), value with
  | none, _ => .error (.unknownArgument (String.ofList ('-' :: '-' :: name)))
  | some choice, [] => given.choose place choice
  | some choice, _ :: value => given.assign choice (String.ofList value)

/-- Read an argument that is no command and not just two dashes. -/
def read (place : Place) (given : Given) (argument : String) : Except Deviation Given :=
  match argument.toList, given.pending, place with
  | '-' :: '-' :: text, _, _ => given.readName place text
  | '-' :: letter :: letters, _, _ => given.readLetters place (letter :: letters)
  | _, .awaited, _ => .ok { given with pending := .value argument }
  | _, _, .program => .error (.unknownCommand argument)
  | _, _, .update => .error (.unknownArgument argument)

end Given

namespace Invocation

/-- The page of help that the words after the command for help name. -/
def helpAbout : List String → Deviation
  | [] => .help .program
  | ["update"] => .help .update
  | ["help"] => .help .help
  | "update" :: word :: _ => .unknownCommand word
  | "help" :: word :: _ => .unknownCommand word
  | word :: _ => .unknownCommand word

/-- Read the arguments after the command for an update. -/
def readUpdate (given : Given) : List String → Except Deviation Given
  | [] => given.settle
  | argument :: rest =>
      if argument = "--" then
        match rest with
        | [] => given.settle
        | word :: _ => .error (.unknownArgument word)
      else do readUpdate (← given.read .update argument) rest

/-- What is wrong with arguments that hold no command. -/
def withoutCommand (given : Given) : Deviation :=
  if given = .nothing then .nothingGiven else .noCommand

/-- An invocation, given what stands before and after the command. Options after the
command count more. -/
def combine (before after : Invocation) : Invocation :=
  { after with
    verbosity := if after.verbosity = 0 then before.verbosity else after.verbosity
    quiet := before.quiet || after.quiet }

/-- Read the arguments from where a command may stand. -/
def readProgram (given : Given) : List String → Except Deviation Invocation
  | [] => .error (withoutCommand given)
  | argument :: rest =>
      if argument = "update" then do
        return combine given.invocation (← readUpdate .nothing rest).invocation
      else if argument = "help" then .error (helpAbout rest)
      else if argument = "--" then
        match rest with
        | [] => .error (withoutCommand given)
        | word :: _ =>
            if word = "update" || word = "help" then .error (.unknownArgument word)
            else .error (.unknownCommand word)
      else do readProgram (← given.read .program argument) rest

def ofArguments (arguments : List String) : Except Deviation Invocation :=
  readProgram .nothing arguments

end Invocation

end SelfUpdate.CommandLine
