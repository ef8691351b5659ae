import RxSteering.Identifiers
import RxSteering.Object.Fault
import RxSteering.SystemError

/-!
Everything that can go wrong while steering is set up or changed, each cause with the values it
is reported with.
-/
namespace RxSteering

open Text

inductive ProgramError where
  | notLoaded
  | unexpectedType
  | rejected
  | linkRefused
  deriving DecidableEq, Repr

def ProgramError.message : ProgramError → String
  | notLoaded => "the program is not loaded"
  | unexpectedType => "unexpected program type"
  | rejected => "the BPF_PROG_LOAD syscall failed. "
  | linkRefused => "`bpf_link_create` failed"

inductive MapError where
  | outOfBounds (index entries : Nat)
  | invalidType (mapType : Nat)
  | updateRefused
  deriving DecidableEq, Repr

def MapError.message : MapError → String
  | outOfBounds index entries => s!"the index is {index} but `max_entries` is {entries}"
  | invalidType mapType => s!"invalid map type {mapType}"
  | updateRefused => "`bpf_map_update_elem` failed"

/-- A privilege of the process. The first two are those that a loader needs. -/
inductive Capability where
  | bpf
  | netAdmin
  | other (name : String)
  deriving DecidableEq, Repr

namespace Capability

def name : Capability → String
  | bpf => "CAP_BPF"
  | netAdmin => "CAP_NET_ADMIN"
  | other name => name

def ofName : String → Capability
  | "CAP_BPF" => bpf
  | "CAP_NET_ADMIN" => netAdmin
  | name => other name

end Capability

inductive Error where
  | invalidCapacity (capacity : UInt32)
  | queueOutOfRange (queue : QueueId) (capacity : UInt32)
  | unknownSocket (handle : SocketHandle)
  | invalidSetting (setting value : String)
  | interfaceNotFound (name : String)
  | missingObject (name : String)
  | mapSyscall (queue : QueueId) (cause : SystemError)
  | load (cause : Object.Fault)
  | program (cause : ProgramError)
  | map (cause : MapError)
  | capability (capability : Capability) (reason : String)
  | system (cause : SystemError)
  deriving DecidableEq, Repr

namespace Error

def message : Error → String
  | invalidCapacity capacity =>
    s!"redirect table capacity {capacity.toNat} outside 1..={maxCapacity.toNat}"
  | queueOutOfRange queue capacity =>
    s!"queue {queue.text} outside redirect table capacity {capacity.toNat}"
  | unknownSocket handle => s!"socket {handle.text} is not registered"
  | invalidSetting setting value => s!"invalid {setting}: {quoted value}"
  | interfaceNotFound name => s!"interface {quoted name} not found"
  | missingObject name => s!"{name} not found in XDP object"
  | mapSyscall queue cause =>
    s!"redirect map operation failed on queue {queue.text}: {cause.message}"
  | load cause => s!"loading XDP object: {cause.message}"
  | program cause => s!"XDP program rejected or failed to attach: {cause.message}"
  | map cause => s!"redirect map: {cause.message}"
  | capability cap reason => s!"raising capability {cap.name}: {reason}"
  | system cause => cause.message

/-- The error underneath, when this one only adds what was being done. -/
def source? : Error → Option String
  | mapSyscall _ cause => some cause.message
  | load cause => some cause.message
  | program cause => some cause.message
  | map cause => some cause.message
  | _ => none

instance : Inspect Error where
  layout
    | .invalidCapacity capacity => .tuple "InvalidCapacity" [Inspect.layout capacity]
    | .queueOutOfRange queue capacity => .record "QueueOutOfRange"
        [("queue", Inspect.layout queue), ("capacity", Inspect.layout capacity)]
    | .unknownSocket handle => .tuple "UnknownSocket" [Inspect.layout handle]
    | .invalidSetting setting value => .record "InvalidSetting"
        [("what", Inspect.layout setting), ("value", Inspect.layout value)]
    | .interfaceNotFound name => .tuple "InterfaceNotFound" [Inspect.layout name]
    | .missingObject name => .tuple "MissingObject" [Inspect.layout name]
    | .mapSyscall queue cause => .record "MapSyscall"
        [("queue", Inspect.layout queue), ("source", Inspect.layout cause)]
    | .load cause => .tuple "Load" [.word cause.message]
    | .program cause => .tuple "Program" [.word cause.message]
    | .map cause => .tuple "Map" [.word cause.message]
    | .capability cap reason => .record "Capability"
        [("cap", .word cap.name), ("reason", Inspect.layout reason)]
    | .system cause => .tuple "Io" [Inspect.layout cause]

end Error
end RxSteering
