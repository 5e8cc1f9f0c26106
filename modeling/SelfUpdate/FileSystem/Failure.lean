import SelfUpdate.Path.Basic

/-!
# Why a file operation failed

A failure has a kind, which callers act on, and a message, which users see. The
operating system's own failures carry its error number in the message; the
in-memory file system has messages of its own.
-/

namespace SelfUpdate

/-- The kinds of failure that callers may tell apart. -/
inductive FailureKind where
  | notFound
  | permissionDenied
  | alreadyExists
  | notADirectory
  | isADirectory
  | directoryNotEmpty
  | storageFull
  | acrossDevices
  | linkLoop
  | invalidName
  | invalidInput
  | invalidData
  | writeZero
  | busy
  | other
  deriving DecidableEq, Repr

/-- The failures that the operating system reports by number. -/
inductive SystemFault where
  | notPermitted
  | notFound
  | accessDenied
  | busy
  | exists
  | acrossDevices
  | notADirectory
  | isADirectory
  | invalidArgument
  | nameTooLong
  | notEmpty
  | linkLoop
  deriving DecidableEq, Repr

namespace SystemFault

def code : SystemFault → Nat
  | .notPermitted => 1
  | .notFound => 2
  | .accessDenied => 13
  | .busy => 16
  | .exists => 17
  | .acrossDevices => 18
  | .notADirectory => 20
  | .isADirectory => 21
  | .invalidArgument => 22
  | .nameTooLong => 36
  | .notEmpty => 39
  | .linkLoop => 40

def description : SystemFault → String
  | .notPermitted => "Operation not permitted"
  | .notFound => "No such file or directory"
  | .accessDenied => "Permission denied"
  | .busy => "Device or resource busy"
  | .exists => "File exists"
  | .acrossDevices => "Invalid cross-device link"
  | .notADirectory => "Not a directory"
  | .isADirectory => "Is a directory"
  | .invalidArgument => "Invalid argument"
  | .nameTooLong => "File name too long"
  | .notEmpty => "Directory not empty"
  | .linkLoop => "Too many levels of symbolic links"

def kind : SystemFault → FailureKind
  | .notPermitted | .accessDenied => .permissionDenied
  | .notFound => .notFound
  | .busy => .busy
  | .exists => .alreadyExists
  | .acrossDevices => .acrossDevices
  | .notADirectory => .notADirectory
  | .isADirectory => .isADirectory
  | .invalidArgument => .invalidInput
  | .nameTooLong => .invalidName
  | .notEmpty => .directoryNotEmpty
  | .linkLoop => .linkLoop

def all : List SystemFault :=
  [.notPermitted, .notFound, .accessDenied, .busy, .exists, .acrossDevices, .notADirectory,
    .isADirectory, .invalidArgument, .nameTooLong, .notEmpty, .linkLoop]

def ofCode? (code : Nat) : Option SystemFault :=
  all.find? fun fault => fault.code = code

end SystemFault

/-- Why a file operation failed. The first four failures are those of the in-memory file system,
and `nulInPath` is a path with the character that ends paths. -/
inductive Failure where
  | missing (path : Path)
  | acrossVolumes
  | renameRefused
  | volumeFull
  | system (fault : SystemFault)
  | nulInPath
  | notUnicode
  | nothingWritten
  | refused (kind : FailureKind) (reason : String)
  deriving DecidableEq, Repr

namespace Failure

def kind : Failure → FailureKind
  | .missing _ => .notFound
  | .acrossVolumes => .acrossDevices
  | .renameRefused => .permissionDenied
  | .volumeFull => .storageFull
  | .system fault => fault.kind
  | .nulInPath => .invalidInput
  | .notUnicode => .invalidData
  | .nothingWritten => .writeZero
  | .refused kind _ => kind

def message : Failure → String
  | .missing path => path.text ++ ": no such file or directory"
  | .acrossVolumes => "invalid cross-device link"
  | .renameRefused => "text file busy"
  | .volumeFull => "no space left on device"
  | .system fault => fault.description ++ " (os error " ++ toString fault.code ++ ")"
  | .nulInPath => "file name contained an unexpected NUL byte"
  | .notUnicode => "stream did not contain valid UTF-8"
  | .nothingWritten => "failed to write whole buffer"
  | .refused _ reason => reason

end Failure

end SelfUpdate
