import RxSteering.Proofs.FrameOutcome
import RxSteering.Proofs.Reachability

/-!
The rings of a host, apart from everything else in it: what changes one ring leaves the others
alone, and no call, at no step, touches what is queued in any of them.
-/
namespace RxSteering

variable {β : Type}

namespace Ring

variable {ring other : Ring β}

theorem queued_of_consumer (same : ring.consumer = other.consumer) :
    ring.queued = other.queued := by
  rw [queued, queued, same]

theorem isClosed_of_consumer (same : ring.consumer = other.consumer) :
    ring.isClosed = other.isClosed := by
  rw [isClosed, isClosed, same]

theorem consumer_of_present (present : ring.isClosed = false) :
    ring.consumer = .present ring.queued := by
  unfold isClosed at present
  unfold queued
  split at present
  next queued here => rw [here]
  next => cases present

theorem not_isClosed_of_hasRoom (room : ring.hasRoom = true) : ring.isClosed = false := by
  simp only [hasRoom, Bool.and_eq_true, Bool.not_eq_true'] at room
  exact room.1

theorem queued_push (ring : Ring β) (payload : β) :
    (ring.push payload).queued = ring.queued ++ [payload] := rfl

end Ring

namespace Host

theorem ring_modifyRing (host : Host β) (id other : RingId) (change : Ring β → Ring β) :
    (host.modifyRing id change).ring other =
      if id = other ∧ id < host.rings.length then change (host.ring id) else host.ring other := by
  simp only [ring, modifyRing, List.getD_eq_getElem?_getD, List.getElem?_modify]
  by_cases same : id = other
  · subst same
    by_cases inside : id < host.rings.length
    · simp [inside]
    · simp [inside]
  · simp [same]

theorem set_ring (host : Host β) (id : RingId) :
    host.rings.set id (host.ring id) = host.rings := by
  rw [← host.modify_rings id fun ring => ring]
  exact List.modify_id id host.rings

theorem ring_of_outside {host : Host β} {id : RingId} (outside : host.rings.length ≤ id) :
    host.ring id = default := by
  simp [ring, outside]

theorem inside_of_present {host : Host β} {id : RingId}
    (present : (host.ring id).isClosed = false) : id < host.rings.length := by
  rcases Nat.lt_or_ge id host.rings.length with inside | outside
  · exact inside
  · rw [ring_of_outside outside] at present
    cases present

theorem ring_take {host : Host β} {id : RingId} (room : (host.ring id).hasRoom = true)
    (payload : β) (other : RingId) :
    (host.take (some id) payload).ring other =
      if id = other then (host.ring id).push payload else host.ring other := by
  have inside := inside_of_present (Ring.not_isClosed_of_hasRoom room)
  have changed := host.ring_modifyRing id other fun ring => ring.push payload
  simp only [inside, and_true] at changed
  exact changed

theorem hasRoom_of_taker? {host : Host β} {d : DispatcherId} {queue : QueueId} {id : RingId}
    (taker : host.taker? d queue = some id) : (host.ring id).hasRoom = true :=
  (Option.filter_eq_some_iff.mp taker).2

def consumers (host : Host β) : List (Consumer β) := host.rings.map Ring.consumer

theorem consumer_of_consumers {a b : Host β} (same : a.consumers = b.consumers) (id : RingId) :
    (a.ring id).consumer = (b.ring id).consumer := by
  have seen (host : Host β) : (host.ring id).consumer = host.consumers.getD id (.gone 0) := by
    simp only [ring, consumers, List.getD_eq_getElem?_getD, List.getElem?_map]
    cases host.rings[id]? with
    | none => rfl
    | some ring => rfl
  rw [seen, seen, same]

theorem length_of_consumers {a b : Host β} (same : a.consumers = b.consumers) :
    a.rings.length = b.rings.length := by
  simpa [consumers] using congrArg List.length same

theorem consumers_modifyRing (host : Host β) (id : RingId) {change : Ring β → Ring β}
    (kept : ∀ ring, (change ring).consumer = ring.consumer) :
    (host.modifyRing id change).consumers = host.consumers := by
  apply List.ext_getElem?
  intro other
  simp only [consumers, modifyRing, List.getElem?_map, List.getElem?_modify]
  by_cases same : id = other
  · cases host.rings[other]? with
    | none => simp
    | some ring => simp [same, kept]
  · simp [same]

theorem consumers_step (d : DispatcherId) (host : Host β) (call : Call) :
    (host.step d call).host.consumers = host.consumers := by
  have stepped := host.steppedTo_step d call
  generalize (host.step d call).host = after at stepped ⊢
  cases stepped with
  | wrote table written => rfl
  | added handle next ring =>
    exact (host.modifyDispatcher d _).consumers_modifyRing ring fun _ => rfl
  | removed handle ring =>
    exact (host.modifyDispatcher d _).consumers_modifyRing ring fun _ => rfl

theorem consumers_request (host : Host β) (d : DispatcherId) (request : Request) :
    (host.request d request).2.2.consumers = host.consumers :=
  request_keeps (fun after => after.consumers = host.consumers)
    (fun after call same => (consumers_step d after call).trans same) request rfl

end Host
end RxSteering
