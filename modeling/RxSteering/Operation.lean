import RxSteering.Call

/-!
All that any party can do to a host, one thing after the other: calls and frames through a
dispatcher, and direct use of the table and the rings.
-/
namespace RxSteering

namespace Host

inductive Operation (β : Type) where
  | request (d : DispatcherId) (request : Request)
  | dispatch (d : DispatcherId) (frame : Frame β)
  | table (operation : Table.Operation)
  | openRing (depth : Nat)
  | ring (id : RingId) (operation : Ring.Operation β)
  deriving DecidableEq, Repr

inductive Answer (β : Type) where
  | outcome (outcome : Outcome)
  | disposition (disposition : Disposition β)
  | table (answer : Table.Answer)
  | opened (id : RingId)
  | ring (answer : Ring.Answer β)
  deriving DecidableEq, Repr

structure Result (β : Type) where
  answer : Answer β
  records : List Record := []
  host : Host β

variable {β : Type}

def perform (host : Host β) : Operation β → Result β
  | .request d request =>
    let (outcome, records, after) := host.request d request
    { answer := .outcome outcome, records := records, host := after }
  | .dispatch d frame =>
    let (disposition, after) := host.dispatch d frame
    { answer := .disposition disposition, host := after }
  | .table operation =>
    let (answer, table) := host.table.perform operation
    { answer := .table answer, host := host.withTable table }
  | .openRing depth => { answer := .opened host.rings.length, host := host.addRing depth }
  | .ring id operation =>
    { answer := .ring ((host.ring id).perform operation).1
      host := host.modifyRing id fun ring => (ring.perform operation).2 }

def run (host : Host β) (operations : List (Operation β)) : Host β :=
  operations.foldl (fun host operation => (host.perform operation).host) host

end Host
end RxSteering
