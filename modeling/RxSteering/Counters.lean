import RxSteering.Identifiers

/-!
The account that a dispatcher keeps of its frames, in words of 64 bits.
-/
namespace RxSteering

open Text

inductive DropReason where
  /-- no socket is bound to the frame's queue -/
  | unmappedQueue
  /-- the bound socket is gone, or its ring is full or closed -/
  | targetUnavailable
  deriving DecidableEq, Repr

def DropReason.name : DropReason → String
  | unmappedQueue => "UnmappedQueue"
  | targetUnavailable => "TargetUnavailable"

inductive Disposition (β : Type) where
  | redirected (handle : SocketHandle)
  | dropped (reason : DropReason)
  | passed (payload : β)
  deriving DecidableEq, Repr

structure Counters where
  frames : UInt64 := 0
  redirected : UInt64 := 0
  droppedUnmapped : UInt64 := 0
  droppedUnavailable : UInt64 := 0
  passed : UInt64 := 0
  deriving DecidableEq, Repr, Inhabited

namespace Counters

def dropped (counters : Counters) : UInt64 :=
  counters.droppedUnmapped + counters.droppedUnavailable

def countFrame (counters : Counters) : Counters := { counters with frames := counters.frames + 1 }

def countOutcome {β : Type} (counters : Counters) : Disposition β → Counters
  | .redirected _ => { counters with redirected := counters.redirected + 1 }
  | .dropped .unmappedQueue => { counters with droppedUnmapped := counters.droppedUnmapped + 1 }
  | .dropped .targetUnavailable =>
    { counters with droppedUnavailable := counters.droppedUnavailable + 1 }
  | .passed _ => { counters with passed := counters.passed + 1 }

def account (counters : Counters) : List UInt64 :=
  [counters.frames, counters.redirected, counters.droppedUnmapped, counters.droppedUnavailable,
    counters.passed]

def ofAccount? : List UInt64 → Option Counters
  | [frames, redirected, droppedUnmapped, droppedUnavailable, passed] =>
    some ⟨frames, redirected, droppedUnmapped, droppedUnavailable, passed⟩
  | _ => none

def since (now before : Counters) : Counters :=
  ⟨now.frames - before.frames, now.redirected - before.redirected,
    now.droppedUnmapped - before.droppedUnmapped,
    now.droppedUnavailable - before.droppedUnavailable, now.passed - before.passed⟩

end Counters

instance {β : Type} [Inspect β] : Inspect (Disposition β) where
  layout
    | .redirected handle => .tuple "Redirected" [Inspect.layout handle]
    | .dropped reason => .tuple "Dropped" [.word reason.name]
    | .passed payload => .tuple "Passed" [Inspect.layout payload]

instance : Inspect Counters where
  layout counters := .record "StatsSnapshot"
    [("frames", Inspect.layout counters.frames),
      ("redirected", Inspect.layout counters.redirected),
      ("dropped_unmapped", Inspect.layout counters.droppedUnmapped),
      ("dropped_unavailable", Inspect.layout counters.droppedUnavailable),
      ("passed", Inspect.layout counters.passed)]

end RxSteering
