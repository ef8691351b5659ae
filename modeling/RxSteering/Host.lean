import RxSteering.Counters
import RxSteering.Journal
import RxSteering.Registry
import RxSteering.Ring

/-!
The host that steers frames in one process: a redirect table, the receive rings, and the
dispatchers that share them. A dispatcher knows its own live sockets and keeps its own counters.
Dispatching a frame is four acts in a row, each of which others can come between: the frame is
counted, its queue is looked up, the payload is offered to the ring of the bound socket, and the
outcome is counted.
-/
namespace RxSteering

structure Dispatcher where
  registry : Registry := .empty
  nextHandle : UInt32 := 0
  miss : MissPolicy := .drop
  counters : Counters := {}
  deriving DecidableEq, Repr, Inhabited

abbrev DispatcherId := Nat

structure Host (β : Type) where
  table : Table
  rings : List (Ring β)
  dispatchers : List Dispatcher
  deriving DecidableEq, Repr

namespace Host

variable {β : Type}

def start (table : Table) (policies : List MissPolicy) : Host β where
  table := table
  rings := []
  dispatchers := policies.map fun miss => { miss := miss }

def startRecords (host : Host β) : List Record :=
  host.dispatchers.map fun dispatcher => .started host.table.capacity dispatcher.miss

def dispatcher (host : Host β) (d : DispatcherId) : Dispatcher := host.dispatchers.getD d default

def ring (host : Host β) (id : RingId) : Ring β := host.rings.getD id default

def withTable (host : Host β) (table : Table) : Host β := { host with table := table }

def modifyDispatcher (host : Host β) (d : DispatcherId) (change : Dispatcher → Dispatcher) :
    Host β :=
  { host with dispatchers := host.dispatchers.modify d change }

def modifyRing (host : Host β) (id : RingId) (change : Ring β → Ring β) : Host β :=
  { host with rings := host.rings.modify id change }

def addRing (host : Host β) (depth : Nat) : Host β :=
  { host with rings := host.rings ++ [.ofDepth depth] }

def isRegistered (host : Host β) (d : DispatcherId) (handle : SocketHandle) : Bool :=
  (host.dispatcher d).registry.isLive handle

def classifier (host : Host β) (d : DispatcherId) : Classifier :=
  { table := host.table, miss := (host.dispatcher d).miss }

def setNextHandle (host : Host β) (d : DispatcherId) (next : UInt32) : Host β :=
  host.modifyDispatcher d fun dispatcher => { dispatcher with nextHandle := next }

def countFrame (host : Host β) (d : DispatcherId) : Host β :=
  host.modifyDispatcher d fun dispatcher =>
    { dispatcher with counters := dispatcher.counters.countFrame }

def countOutcome (host : Host β) (d : DispatcherId) (disposition : Disposition β) : Host β :=
  host.modifyDispatcher d fun dispatcher =>
    { dispatcher with counters := dispatcher.counters.countOutcome disposition }

/-- Offers the payload to the ring of this socket, once; a payload that no ring takes is
released. -/
def offer (host : Host β) (d : DispatcherId) (handle : SocketHandle) (payload : β) :
    Disposition β × Host β :=
  match (host.dispatcher d).registry.ring? handle with
  | none => (.dropped .targetUnavailable, host)
  | some id =>
    if ((host.ring id).deliver payload).1.isAccepted then
      (.redirected handle, host.modifyRing id fun ring => (ring.deliver payload).2)
    else (.dropped .targetUnavailable, host)

def transfer (host : Host β) (d : DispatcherId) (handle : SocketHandle) (payload : β) :
    Disposition β × Host β :=
  let (disposition, after) := host.offer d handle payload
  (disposition, after.countOutcome d disposition)

def carryOut (host : Host β) (d : DispatcherId) (decision : Decision) (payload : β) :
    Disposition β × Host β :=
  match decision with
  | .redirect handle => host.transfer d handle payload
  | .drop =>
    (.dropped .unmappedQueue, host.countOutcome d (.dropped .unmappedQueue : Disposition β))
  | .pass => (.passed payload, host.countOutcome d (.passed payload))

def dispatch (host : Host β) (d : DispatcherId) (frame : Frame β) : Disposition β × Host β :=
  let counted := host.countFrame d
  counted.carryOut d ((counted.classifier d).classify frame) frame.payload

def dispatchAll (host : Host β) (d : DispatcherId) : List (Frame β) → List (Disposition β) × Host β
  | [] => ([], host)
  | frame :: rest =>
    let (disposition, after) := host.dispatch d frame
    let (more, last) := after.dispatchAll d rest
    (disposition :: more, last)

end Host
end RxSteering
