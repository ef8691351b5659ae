import RxSteering.FileTree
import RxSteering.LoadedProgram

/-!
The machine that programs are loaded on, as far as the loader depends on it: its network
interfaces, the files and descriptors of the process, the capabilities that were taken from it and
the verdict of its kernel on a program. An interface takes one program at a time, and a native link
only if its driver supports it.
-/
namespace RxSteering

structure Interface where
  name : String
  index : UInt32
  native : Bool
  deriving DecidableEq, Repr

inductive DescriptorKind where
  | packetSocket
  | datagramSocket
  | file
  deriving DecidableEq, Repr

structure Descriptor where
  kind : DescriptorKind
  isOpen : Bool := true
  deriving DecidableEq, Repr

structure Machine where
  interfaces : List Interface := [⟨"lo", 1, false⟩]
  files : FileTree := {}
  descriptors : List Descriptor := []
  dropped : List Capability := []
  verifies : Object.Routine → Bool := LoadedProgram.roughVerdict
  /-- every program ever loaded, in order, as long as it is there -/
  programs : List (Option LoadedProgram) := []

namespace Machine

def firstDescriptor : Int := 200

def addTap (machine : Machine) (name : String) : Machine :=
  { machine with interfaces := machine.interfaces ++
      [⟨name, UInt32.ofNat (machine.interfaces.length + 1), true⟩] }

/-- A name with a zero byte is no interface's. -/
def interfaceIndex (machine : Machine) (name : String) : Except Error UInt32 :=
  match machine.interfaces.find? fun interface =>
      interface.name = name && !name.toList.contains '\x00' with
  | some interface => .ok interface.index
  | none => .error (.interfaceNotFound name)

def openDescriptor (machine : Machine) (kind : DescriptorKind) : Machine :=
  { machine with descriptors := machine.descriptors ++ [{ kind := kind }] }

def descriptor? (machine : Machine) (number : Int) : Option Descriptor :=
  if number < firstDescriptor then none
  else machine.descriptors[(number - firstDescriptor).toNat]?.filter Descriptor.isOpen

def close (machine : Machine) (number : Int) : Bool × Machine :=
  match machine.descriptor? number with
  | none => (false, machine)
  | some _ => (true, { machine with
      descriptors := machine.descriptors.modify (number - firstDescriptor).toNat
        fun descriptor => { descriptor with isOpen := false } })

def isPacketSocket (machine : Machine) (number : Int) : Bool :=
  (machine.descriptor? number).any fun descriptor => descriptor.kind = .packetSocket

def dropCapability (machine : Machine) (cap : Capability) : Machine :=
  { machine with dropped := cap :: machine.dropped }

def raiseCapabilities (machine : Machine) : Except Error Unit :=
  match [Capability.bpf, Capability.netAdmin].find? fun cap => machine.dropped.contains cap with
  | some cap => .error (.capability cap
      s!"caps error: capset failure: {SystemError.message (.numbered .notPermitted)}")
  | none => .ok ()

def program? (machine : Machine) (p : Nat) : Option LoadedProgram := machine.programs[p]?.join

def setProgram (machine : Machine) (p : Nat) (program : Option LoadedProgram) : Machine :=
  { machine with programs := machine.programs.set p program }

def isOccupied (machine : Machine) (interface : UInt32) : Bool :=
  machine.programs.any fun program =>
    program.any fun program => program.attachments.contains interface

/-- The kernel's answer to an attempt to put a program on an interface. A program made for another
place is on none. -/
def accepts (machine : Machine) (place : Object.HookPlace) (index : UInt32) (kind : LinkKind) :
    Bool :=
  place = .interface && !machine.isOccupied index && machine.interfaces.any fun interface =>
    interface.index = index && (kind = .generic || interface.native)

def loadFile (machine : Machine) (path : String) (options : ProgramOptions) :
    Except Error (LoaderRecord × LoadedProgram) := do
  let content ← (machine.files.read path).mapError .system
  LoadedProgram.load content options machine.verifies

def addProgram (machine : Machine) (program : LoadedProgram) : Machine :=
  { machine with programs := machine.programs ++ [some program] }

def attach (machine : Machine) (p : Nat) (program : LoadedProgram) (index : UInt32) :
    Except Error Unit × List LoaderRecord × Machine :=
  let (result, records, program) := program.attach index (machine.accepts program.place index)
  (result, records, machine.setProgram p (some program))

end Machine
end RxSteering
