import RxSteering.Object.File
import RxSteering.SystemError
import RxSteering.Text.Pieces

/-!
The files of a machine, as far as a path to an object file can lead to them: some files by their
paths, and the directories, plain files and commands that every machine has. A path is walked from
the root, or from a working directory with nothing in it, and each step has to start from a
directory.
-/
namespace RxSteering

structure FileTree where
  files : List (String × Except Object.Fault Object.File) := []

namespace FileTree

abbrev Place := List String

def place (path : String) : Place :=
  ((Text.pieces '/' path.toList).filter (· ≠ [])).map String.ofList

def directories : List Place :=
  ["/", "/bin", "/boot", "/dev", "/dev/shm", "/etc", "/home", "/lib", "/media", "/mnt", "/opt",
    "/proc", "/proc/self", "/root", "/run", "/sbin", "/srv", "/sys", "/tmp", "/usr", "/usr/bin",
    "/usr/lib", "/usr/local", "/usr/share", "/var", "/var/lib", "/var/log", "/var/tmp"].map place

def plainFiles : List Place :=
  ["/dev/null", "/etc/group", "/etc/hostname", "/etc/hosts", "/etc/os-release", "/etc/passwd",
    "/etc/resolv.conf", "/proc/cpuinfo", "/proc/meminfo", "/proc/self/status",
    "/proc/version"].map place

def commands : List Place :=
  ["/bin/cat", "/bin/echo", "/bin/ls", "/bin/sh", "/bin/true", "/usr/bin/env"].map place

def commandStart : String := ".init"

/-- No path from the root leads here. -/
def workingDirectory : Place := ["."]

def nameLimit : Nat := 255

/-- A path is shorter than this, in bytes. -/
def pathLimit : Nat := 4096

def isDirectory (place : Place) : Bool :=
  place = workingDirectory || directories.contains place

def walk : Place → List String → Except Errno Place
  | place, [] => .ok place
  | place, name :: rest =>
    if !isDirectory place then .error .notDirectory
    else if name = "" ∨ name = "." then walk place rest
    else if name = ".." then walk place.dropLast rest
    else if name.utf8ByteSize > nameLimit then .error .nameTooLong
    else
      let next := place ++ [name]
      if isDirectory next || plainFiles.contains next || commands.contains next then
        walk next rest
      else .error .noSuchEntry

def find (path : String) : Except Errno Place :=
  if path.utf8ByteSize ≥ pathLimit then .error .nameTooLong
  else if path = "" then .error .noSuchEntry
  else
    let start := if path.toList.head? = some '/' then [] else workingDirectory
    walk start ((Text.pieces '/' path.toList).map String.ofList)

def content (place : Place) : Except Object.Fault Object.File :=
  .error (if commands.contains place then .invalidSection commandStart else .notElf)

/-- The object file at a path. What is at a path that is not among the files is what every machine
has there. -/
def read (tree : FileTree) (path : String) :
    Except SystemError (Except Object.Fault Object.File) :=
  if path.toList.contains '\x00' then
    .error (.fixed .invalidInput "file name contained an unexpected NUL byte")
  else
    match tree.files.lookup path with
    | some content => .ok content
    | none =>
      match find path with
      | .error errno => .error (.numbered errno)
      | .ok place =>
        if isDirectory place then .error (.numbered .isDirectory) else .ok (content place)

end FileTree
end RxSteering
