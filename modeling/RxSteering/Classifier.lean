import RxSteering.Table

/-!
What becomes of one frame: the classifier looks up the frame's receive queue and redirects it to
the socket bound there, or applies the miss policy when there is none. The decision depends on the
queue, the table and the policy alone.
-/
namespace RxSteering

open Text

structure Frame (β : Type) where
  rxQueue : UInt32
  payload : β
  deriving DecidableEq, Repr

def Frame.queue {β : Type} (frame : Frame β) : QueueId := ⟨frame.rxQueue⟩

inductive Action where
  | aborted
  | drop
  | pass
  | tx
  | redirect
  deriving DecidableEq, Repr

namespace Action

def code : Action → UInt32
  | aborted => 0
  | drop => 1
  | pass => 2
  | tx => 3
  | redirect => 4

def name : Action → String
  | aborted => "Aborted"
  | drop => "Drop"
  | pass => "Pass"
  | tx => "Tx"
  | redirect => "Redirect"

def all : List Action := [aborted, drop, pass, tx, redirect]

end Action

/-- What happens to a frame whose queue has no socket: it is released, or it goes on to the
regular network stack. -/
inductive MissPolicy where
  | drop
  | pass
  deriving DecidableEq, Repr, Inhabited

namespace MissPolicy

def action : MissPolicy → Action
  | drop => .drop
  | pass => .pass

def text : MissPolicy → String
  | drop => "drop"
  | pass => "pass"

/-- Letters of either case are accepted, but only those of ASCII. -/
def parse (s : String) : Except Error MissPolicy :=
  match s.toLower with
  | "drop" => .ok drop
  | "pass" => .ok pass
  | _ => .error (.invalidSetting "miss policy" s)

end MissPolicy

inductive Decision where
  | redirect (handle : SocketHandle)
  | drop
  | pass
  deriving DecidableEq, Repr

namespace Decision

def action : Decision → Action
  | redirect _ => .redirect
  | drop => .drop
  | pass => .pass

def target? : Decision → Option SocketHandle
  | redirect handle => some handle
  | _ => none

end Decision

def MissPolicy.decision : MissPolicy → Decision
  | drop => .drop
  | pass => .pass

structure Classifier where
  table : Table
  miss : MissPolicy := .drop
  deriving DecidableEq, Repr

namespace Classifier

def classifyQueue (classifier : Classifier) (queue : QueueId) : Decision :=
  match classifier.table.lookup queue with
  | some handle => .redirect handle
  | none => classifier.miss.decision

def classify {β : Type} (classifier : Classifier) (frame : Frame β) : Decision :=
  classifier.classifyQueue frame.queue

end Classifier

instance {β : Type} [Inspect β] : Inspect (Frame β) where
  layout frame := .record "Frame"
    [("rx_queue_index", Inspect.layout frame.rxQueue), ("payload", Inspect.layout frame.payload)]

instance : Inspect MissPolicy := ⟨fun policy => .word policy.action.name⟩

instance : Inspect Decision where
  layout
    | .redirect handle => .tuple "Redirect" [Inspect.layout handle]
    | decision => .word decision.action.name

instance : Inspect Classifier where
  layout classifier := .record "Classifier"
    [("capacity", Inspect.layout classifier.table.capacity),
      ("miss", Inspect.layout classifier.miss)]

end RxSteering
