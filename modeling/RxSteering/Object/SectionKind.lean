import RxSteering.Text.Pieces

/-!
What a section of an object file holds, by its name. Sections whose names mean nothing of their
own hold programs if they hold code, and then the name has to say of what kind.
-/
namespace RxSteering.Object

inductive SectionKind where
  | license
  | version
  | maps
  | typedMaps
  /-- code that programs call -/
  | sharedCode
  | initialized
  /-- variables that start out as zero -/
  | zeroes
  | typeInfo
  | lineInfo
  | unnamed
  deriving DecidableEq, Repr

namespace SectionKind

def openings : List (String × SectionKind) :=
  [("license", license), ("version", version), ("maps", maps), (".maps", typedMaps),
    (".text", sharedCode), (".bss", zeroes), (".data", initialized), (".rodata", initialized)]

def typeInfoName : String := ".BTF"

def lineInfoName : String := ".BTF.ext"

def ofName (name : String) : SectionKind :=
  match openings.find? fun (opening, _) => opening.isPrefixOf name with
  | some (_, kind) => kind
  | none =>
    if name = typeInfoName then typeInfo
    else if name = lineInfoName then lineInfo
    else unnamed

end SectionKind

/-- Where a receive hook is: at an interface, or behind a map that frames are redirected to. -/
inductive HookPlace where
  | interface
  | deviceMap
  | cpuMap
  deriving DecidableEq, Repr

inductive ProgramKind where
  | receiveHook (place : HookPlace)
  | other
  deriving DecidableEq, Repr

namespace ProgramKind

def receiveHooks : List String := ["xdp", "xdp.frags"]

def places : List (String × HookPlace) := [("devmap", .deviceMap), ("cpumap", .cpuMap)]

def freelyPlaced : List String :=
  ["kprobe", "kretprobe", "uprobe", "uprobe.s", "uretprobe", "uretprobe.s", "tp_btf",
    "tracepoint", "tp", "socket", "sk_msg", "sockops", "classifier", "lirc_mode2", "perf_event",
    "raw_tp", "raw_tracepoint", "lsm", "lsm.s", "fentry", "fentry.s", "fexit", "fexit.s",
    "freplace", "sk_lookup"]

def placed : List (String × List String) :=
  [("sk_skb", ["stream_parser", "stream_verdict"]),
    ("cgroup_skb", ["ingress", "egress"]),
    ("cgroup", ["skb", "sysctl", "dev", "getsockopt", "setsockopt", "sock", "post_bind4",
      "post_bind6", "sock_create", "sock_release", "bind4", "bind6", "connect4", "connect6",
      "getpeername4", "getpeername6", "getsockname4", "getsockname6", "sendmsg4", "sendmsg6",
      "recvmsg4", "recvmsg6"])]

def ofParts? (first : String) (second? : Option String) : Option ProgramKind :=
  if receiveHooks.contains first then
    match second? with
    | none => some (receiveHook .interface)
    | some second => (places.lookup second).map receiveHook
  else if freelyPlaced.contains first then some other
  else if ((placed.lookup first).getD []).any fun place => second? = some place then some other
  else none

/-- The name of a program's section has parts between slashes, of which two count. -/
def ofName? (name : String) : Option ProgramKind :=
  let parts := (Text.pieces '/' name.toList).map String.ofList
  ofParts? (parts.headD "") parts[1]?

end ProgramKind
end RxSteering.Object
