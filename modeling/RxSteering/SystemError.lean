import RxSteering.Text.Inspect

/-!
Errors of the operating system: a numbered one, or one that carries its own text.
-/
namespace RxSteering

open Text

inductive ErrorKind where
  | notFound
  | permissionDenied
  | notADirectory
  | isADirectory
  | invalidInput
  | invalidFilename
  | other
  | uncategorized
  deriving DecidableEq, Repr

def ErrorKind.name : ErrorKind → String
  | .notFound => "NotFound"
  | .permissionDenied => "PermissionDenied"
  | .notADirectory => "NotADirectory"
  | .isADirectory => "IsADirectory"
  | .invalidInput => "InvalidInput"
  | .invalidFilename => "InvalidFilename"
  | .other => "Other"
  | .uncategorized => "Uncategorized"

inductive Errno where
  | notPermitted
  | noSuchEntry
  | badDescriptor
  | accessDenied
  | notDirectory
  | isDirectory
  | invalidArgument
  | nameTooLong
  deriving DecidableEq, Repr

namespace Errno

def number : Errno → Nat
  | notPermitted => 1
  | noSuchEntry => 2
  | badDescriptor => 9
  | accessDenied => 13
  | notDirectory => 20
  | isDirectory => 21
  | invalidArgument => 22
  | nameTooLong => 36

def all : List Errno :=
  [notPermitted, noSuchEntry, badDescriptor, accessDenied, notDirectory, isDirectory,
    invalidArgument, nameTooLong]

def ofNumber? (n : Nat) : Option Errno := all.find? fun errno => errno.number = n

def reason : Errno → String
  | notPermitted => "Operation not permitted"
  | noSuchEntry => "No such file or directory"
  | badDescriptor => "Bad file descriptor"
  | accessDenied => "Permission denied"
  | notDirectory => "Not a directory"
  | isDirectory => "Is a directory"
  | invalidArgument => "Invalid argument"
  | nameTooLong => "File name too long"

def kind : Errno → ErrorKind
  | notPermitted => .permissionDenied
  | noSuchEntry => .notFound
  | badDescriptor => .uncategorized
  | accessDenied => .permissionDenied
  | notDirectory => .notADirectory
  | isDirectory => .isADirectory
  | invalidArgument => .invalidInput
  | nameTooLong => .invalidFilename

theorem ofNumber?_number (errno : Errno) : ofNumber? errno.number = some errno := by
  cases errno <;> rfl

end Errno

inductive SystemError where
  | numbered (errno : Errno)
  /-- an error whose text was made for the occasion -/
  | custom (kind : ErrorKind) (text : String)
  /-- an error with a fixed text -/
  | fixed (kind : ErrorKind) (text : String)
  deriving DecidableEq, Repr

namespace SystemError

def kind : SystemError → ErrorKind
  | numbered errno => errno.kind
  | custom kind _ => kind
  | fixed kind _ => kind

def message : SystemError → String
  | numbered errno => s!"{errno.reason} (os error {errno.number})"
  | custom _ text => text
  | fixed _ text => text

instance : Inspect ErrorKind := ⟨fun kind => .word kind.name⟩

instance : Inspect SystemError where
  layout
    | .numbered errno => .record "Os" [("code", Inspect.layout errno.number),
        ("kind", Inspect.layout errno.kind), ("message", Inspect.layout errno.reason)]
    | .custom kind text => .record "Custom" [("kind", Inspect.layout kind),
        ("error", Inspect.layout text)]
    | .fixed kind text => .record "Error" [("kind", Inspect.layout kind),
        ("message", Inspect.layout text)]

end SystemError
end RxSteering
