import RxSteering.Proofs.Counting
import RxSteering.Proofs.Passage

/-!
Lanes that dispatch at one time through one dispatcher: each has a queue of its own choice and
payloads that it dispatches there in order, the next one when the last is answered. They take turns
access by access in any order, and the trail says in which order their payloads found their places.
-/
namespace RxSteering

variable {β : Type}

structure Lane (β : Type) where
  queue : QueueId
  payloads : List β
  deriving DecidableEq, Repr

namespace Lane

def frame (lane : Lane β) (payload : β) : Frame β := ⟨lane.queue.index, payload⟩

def frames (lane : Lane β) : List (Frame β) := lane.payloads.map lane.frame

end Lane

structure Course (β : Type) where
  lane : Lane β
  /-- the payloads that are not dispatched yet -/
  ahead : List β
  /-- the frame that is being dispatched -/
  passage : Option (Passage β) := none
  answers : List (Disposition β) := []
  deriving DecidableEq, Repr

structure Settlement (β : Type) where
  lane : Nat
  frame : Frame β
  disposition : Disposition β
  taker : Option RingId
  deriving DecidableEq, Repr

structure Convoy (β : Type) where
  host : Host β
  courses : List (Course β)
  trail : List (Settlement β) := []
  deriving DecidableEq, Repr

namespace Course

def isDone (course : Course β) : Bool := course.passage.isNone && course.ahead.isEmpty

def reach (course : Course β) : Passage β → Course β
  | .answered disposition =>
    { course with passage := none, answers := course.answers ++ [disposition] }
  | passage => { course with passage := some passage }

def settlements (course : Course β) (index : Nat) (before after : Passage β) :
    List (Settlement β) :=
  match before.payload?, after.disposition? with
  | some payload, some disposition =>
    [{ lane := index
       frame := course.lane.frame payload
       disposition := disposition
       taker := if disposition.tally = .redirected then before.target? else none }]
  | _, _ => []

end Course

namespace Convoy

def start (host : Host β) (lanes : List (Lane β)) : Convoy β where
  host := host
  courses := lanes.map fun lane => { lane := lane, ahead := lane.payloads }

def isDone (convoy : Convoy β) : Bool := convoy.courses.all Course.isDone

/-- Lane `index` takes the next payload, or does the next access of the frame it is dispatching. -/
def turn (d : DispatcherId) (convoy : Convoy β) (index : Nat) : Convoy β :=
  match convoy.courses[index]? with
  | none => convoy
  | some course =>
    match course.passage, course.ahead with
    | some passage, _ =>
      let (host, next) := convoy.host.pass d passage
      { host := host
        courses := convoy.courses.set index (course.reach next)
        trail := convoy.trail ++ course.settlements index passage next }
    | none, payload :: rest =>
      { convoy with
        courses := convoy.courses.set index
          { course with ahead := rest, passage := some (.arrived (course.lane.frame payload)) } }
    | none, [] => convoy

def settledFrom (convoy : Convoy β) (index : Nat) : List (Settlement β) :=
  convoy.trail.filter fun settlement => settlement.lane = index

def takenBy (convoy : Convoy β) (id : RingId) : List (Settlement β) :=
  convoy.trail.filter fun settlement => settlement.taker = some id

def run (convoy : Convoy β) (d : DispatcherId) (schedule : List Nat) : Convoy β :=
  schedule.foldl (turn d) convoy

end Convoy
end RxSteering
