import RxSteering.Classifier

/-!
The settings that steering is brought up with on one interface. `validate` checks them in a fixed
order and reports the first that does not hold; `bringUp` starts from texts and ends with the
empty table.
-/
namespace RxSteering

open Text

/-- How the classifier hooks into the driver of an interface: natively, generically on the
socket buffer, or natively if the driver can and else generically. -/
inductive AttachMode where
  | auto
  | native
  | generic
  deriving DecidableEq, Repr, Inhabited

namespace AttachMode

def text : AttachMode → String
  | auto => "auto"
  | native => "native"
  | generic => "generic"

def parse (s : String) : Except Error AttachMode :=
  match s.toLower with
  | "auto" => .ok auto
  | "native" => .ok native
  | "drv" => .ok native
  | "generic" => .ok generic
  | "skb" => .ok generic
  | _ => .error (.invalidSetting "attach mode" s)

instance : Inspect AttachMode where
  layout
    | auto => .word "Auto"
    | native => .word "Native"
    | generic => .word "Generic"

end AttachMode

def defaultRingDepth : UInt64 := 2048

structure ProgramOptions where
  miss : MissPolicy := .drop
  mode : AttachMode := .auto
  deriving DecidableEq, Repr, Inhabited

structure Settings where
  interface : String := "lo"
  capacity : UInt32 := maxCapacity
  miss : MissPolicy := .drop
  mode : AttachMode := .auto
  ringDepth : UInt64 := defaultRingDepth
  deriving DecidableEq, Repr

namespace Settings

def programOptions (settings : Settings) : ProgramOptions := ⟨settings.miss, settings.mode⟩

def validate (settings : Settings) : Except Error Unit :=
  if settings.interface.isEmpty || settings.interface.toList.contains '\x00' then
    .error (.invalidSetting "interface" settings.interface)
  else if settings.capacity = 0 || settings.capacity > maxCapacity then
    .error (.invalidCapacity settings.capacity)
  else if settings.ringDepth = 0 then
    .error (.invalidSetting "ring depth" (toString settings.ringDepth.toNat))
  else .ok ()

/-- Parses and checks the settings and makes the table; the first violation is the error. -/
def bringUp (interface miss mode : String) (capacity : UInt32) (ringDepth : UInt64) :
    Except Error (Settings × Table) := do
  let miss ← MissPolicy.parse miss
  let mode ← AttachMode.parse mode
  let settings : Settings := ⟨interface, capacity, miss, mode, ringDepth⟩
  settings.validate
  let table ← Table.ofCapacity settings.capacity
  return (settings, table)

end Settings

instance : Inspect ProgramOptions where
  layout options := .record "ProgramOptions"
    [("miss_policy", Inspect.layout options.miss), ("attach_mode", Inspect.layout options.mode)]

instance : Inspect Settings where
  layout settings := .record "SteerConfig"
    [("interface", Inspect.layout settings.interface),
      ("capacity", Inspect.layout settings.capacity),
      ("miss_policy", Inspect.layout settings.miss),
      ("attach_mode", Inspect.layout settings.mode),
      ("ring_depth", Inspect.layout settings.ringDepth)]

end RxSteering
