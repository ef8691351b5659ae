import RxSteering.Journal
import RxSteering.KernelMap
import RxSteering.Object.Linking
import RxSteering.Settings
import RxSteering.SocketMap

/-!
A classifier loaded into the kernel: its options, its socket map, the link it was last attached
with and every interface that still carries a link of it. Whether the kernel verifies a program,
what it answers to an attempt to attach and whether a descriptor is a socket it takes come from
outside.
-/
namespace RxSteering

def programName : String := "xdp_redirect"

def mapName : String := "XSKS_MAP"

def missActionName : String := "MISS_ACTION"

def missActionSize : Nat := 4

inductive LinkKind where
  | native
  | generic
  deriving DecidableEq, Repr

inductive LoaderRecord where
  | loaded (miss : MissPolicy)
  | nativeRefused (interface : UInt32) (error : ProgramError)
  | attached (interface : UInt32) (mode : AttachMode)
  | detached (interface : UInt32)
  | bound (queue : QueueId) (descriptor : Int)
  | unbound (queue : QueueId)
  deriving DecidableEq, Repr

namespace LoaderRecord

def level : LoaderRecord → Level
  | nativeRefused .. => .warn
  | _ => .info

def text : LoaderRecord → String
  | loaded miss => s!"loaded {programName}, miss policy {miss.text}"
  | nativeRefused interface error =>
    s!"native attach on if_index {interface.toNat} failed: {error.message}, trying generic"
  | attached interface mode =>
    s!"{programName} attached to if_index {interface.toNat} ({mode.text})"
  | detached interface => s!"{programName} detached from if_index {interface.toNat}"
  | bound queue descriptor => s!"queue {queue.text} -> socket fd {descriptor}"
  | unbound queue => s!"queue {queue.text} unbound"

def line (record : LoaderRecord) : String := record.level.text ++ " " ++ record.text

end LoaderRecord

structure LoadedProgram where
  options : ProgramOptions
  place : Object.HookPlace := .interface
  /-- every map that was made for the program, by name -/
  maps : List KernelMap := []
  map : SocketMap
  link? : Option UInt32 := none
  attachments : List UInt32 := []
  deriving DecidableEq, Repr

namespace LoadedProgram

/-- Stands for the kernel's verifier where no other is given. It sees no more than that a program
does something before it ends and that it does end: the verifier itself follows every path. -/
def roughVerdict (routine : Object.Routine) : Bool :=
  (routine.code.head?.any fun opening => !opening.isExit) &&
    routine.code.getLast?.any fun closing => closing.isExit

/-- Writes the miss action into the object, has a look at the types, makes the maps and links the
functions. The first thing wrong is the error. -/
def prepare (file : Object.File) (miss : MissPolicy) :
    Except Object.Fault (Object.Contents × List KernelMap) := do
  let contents ← file.contents
  let contents ← contents.patch missActionName
    (Bytes.ofNumber missActionSize miss.action.code.toNat)
  contents.checkTypes
  let maps ← contents.maps.mapM KernelMap.create
  let some contents := contents.linked? | throw .unlinkable
  match maps.find? fun map => !map.isSupported with
  | some map => throw (.unsupportedMapType map.mapType)
  | none => return (contents, maps.mergeSort fun a b => a.name ≤ b.name)

/-- Loads the classifier of an object file that is otherwise fit, if the kernel `verifies` it. -/
def loadPrepared (contents : Object.Contents) (maps : List KernelMap) (options : ProgramOptions)
    (verifies : Object.Routine → Bool) : Except Error (LoaderRecord × LoadedProgram) := do
  let some map := maps.find? fun map => map.name = mapName
    | throw (.missingObject mapName)
  let some program := contents.programNamed? programName
    | throw (.missingObject programName)
  let .receiveHook place := program.kind
    | throw (.program .unexpectedType)
  if !(contents.routineAt? program.home program.address).any verifies then
    throw (.program .rejected)
  return (.loaded options.miss, {
    options := options
    place := place
    maps := maps
    map := { mapType := map.mapType, entries := map.entries } })

def load (content : Except Object.Fault Object.File) (options : ProgramOptions)
    (verifies : Object.Routine → Bool := roughVerdict) :
    Except Error (LoaderRecord × LoadedProgram) := do
  let file ← content.mapError .load
  let (contents, maps) ← (prepare file options.miss).mapError .load
  loadPrepared contents maps options verifies

def missAction (program : LoadedProgram) : UInt32 := program.options.miss.action.code

def capacity (_ : LoadedProgram) : UInt32 := maxCapacity

def attempts : AttachMode → List LinkKind
  | .auto => [.native, .generic]
  | .native => [.native]
  | .generic => [.generic]

/-- Makes the attempts until the kernel accepts one. Only a refusal with another attempt to come is
recorded. -/
def attempt (interface : UInt32) (accepts : LinkKind → Bool) :
    List LinkKind → Bool × List LoaderRecord
  | [] => (false, [])
  | [kind] => (accepts kind, [])
  | kind :: rest =>
    if accepts kind then (true, [])
    else
      let (attached, records) := attempt interface accepts rest
      (attached, .nativeRefused interface .linkRefused :: records)

/-- Attaches to one more interface. `accepts` is the kernel's answer to each kind of link. -/
def attach (program : LoadedProgram) (interface : UInt32) (accepts : LinkKind → Bool) :
    Except Error Unit × List LoaderRecord × LoadedProgram :=
  match attempt interface accepts (attempts program.options.mode) with
  | (true, records) =>
    (.ok (), records ++ [.attached interface program.options.mode],
      { program with link? := some interface, attachments := interface :: program.attachments })
  | (false, records) => (.error (.program .linkRefused), records, program)

def checkQueue (program : LoadedProgram) (queue : QueueId) : Except Error Unit :=
  if queue.index ≥ program.capacity then .error (.queueOutOfRange queue program.capacity)
  else .ok ()

/-- Binds a socket to the queue. `isSocket` is the kernel's view of the descriptor. -/
def update (program : LoadedProgram) (queue : QueueId) (descriptor : Int) (isSocket : Bool) :
    Except Error (LoaderRecord × LoadedProgram) := do
  program.checkQueue queue
  if !program.map.holdsSockets then
    throw (.map (.invalidType program.map.mapType))
  else if queue.index.toNat ≥ program.map.entries then
    throw (.map (.outOfBounds queue.index.toNat program.map.entries))
  else if !isSocket then throw (.map .updateRefused)
  else
    return (.bound queue descriptor,
      { program with map := program.map.set queue descriptor })

def delete (program : LoadedProgram) (queue : QueueId) :
    Except Error (Bool × List LoaderRecord × LoadedProgram) := do
  program.checkQueue queue
  if !program.map.holdsSockets then throw (.missingObject mapName)
  else
    match program.map.delete queue with
    | .ok map => return (true, [.unbound queue], { program with map := map })
    | .error .noSuchEntry => return (false, [], program)
    | .error errno => throw (.mapSyscall queue (.numbered errno))

def detach (program : LoadedProgram) : List LoaderRecord :=
  program.link?.toList.map .detached

end LoadedProgram
end RxSteering
