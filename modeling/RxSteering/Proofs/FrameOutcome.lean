import RxSteering.Proofs.Sockets

/-!
What becomes of one frame: by the binding of its queue, the ring behind the bound socket and the
room in that ring. At most one ring changes, and then by the frame's payload at its end.
-/
namespace RxSteering

def MissPolicy.disposition {β : Type} (miss : MissPolicy) (payload : β) : Disposition β :=
  match miss with
  | drop => .dropped .unmappedQueue
  | pass => .passed payload

namespace Ring

variable {β : Type}

def hasRoom (ring : Ring β) : Bool := !ring.isClosed && !ring.isFull

def push (ring : Ring β) (payload : β) : Ring β :=
  { ring with consumer := .present (ring.queued ++ [payload]) }

theorem deliver_of_hasRoom {ring : Ring β} (room : ring.hasRoom = true) (payload : β) :
    ring.deliver payload = (.accepted, ring.push payload) := by
  simp only [hasRoom, Bool.and_eq_true, Bool.not_eq_true'] at room
  exact ring.deliver_of_room payload room.1 room.2

theorem isAccepted_of_not_hasRoom {ring : Ring β} (refuses : ring.hasRoom = false) (payload : β) :
    (ring.deliver payload).1.isAccepted = false := by
  cases closed : ring.isClosed with
  | true =>
    rw [ring.deliver_of_gone payload closed]
    rfl
  | false =>
    have full : ring.isFull = true := by simpa [hasRoom, closed] using refuses
    rw [ring.deliver_of_full payload closed full]
    rfl

end Ring

namespace Host

variable {β : Type} {host : Host β} {d : DispatcherId}

theorem modify_rings (host : Host β) (id : RingId) (change : Ring β → Ring β) :
    host.rings.modify id change = host.rings.set id (change (host.ring id)) := by
  apply List.ext_getElem?
  intro index
  rw [List.getElem?_modify, List.getElem?_set]
  by_cases same : id = index
  · subst same
    by_cases inside : id < host.rings.length
    · simp [inside, ring]
    · simp [inside]
  · simp [same]

def target? (host : Host β) (d : DispatcherId) (queue : QueueId) : Option RingId :=
  (host.table.lookup queue).bind (host.socket? d)

/-- The ring that would take in a frame on the queue. -/
def taker? (host : Host β) (d : DispatcherId) (queue : QueueId) : Option RingId :=
  (host.target? d queue).filter fun id => (host.ring id).hasRoom

def verdict (host : Host β) (d : DispatcherId) (frame : Frame β) : Disposition β :=
  match host.table.lookup frame.queue with
  | none => (host.dispatcher d).miss.disposition frame.payload
  | some handle =>
    if (host.taker? d frame.queue).isSome then .redirected handle else .dropped .targetUnavailable

def take (host : Host β) (taker : Option RingId) (payload : β) : Host β :=
  match taker with
  | none => host
  | some id => host.modifyRing id fun ring => ring.push payload

def countAs (host : Host β) (d : DispatcherId) (disposition : Disposition β) : Host β :=
  (host.countFrame d).countOutcome d disposition

/-- Offers the payload to a ring that was looked up before, if the socket was found. -/
def offerTo (host : Host β) (handle : SocketHandle) (target : Option RingId) (payload : β) :
    Disposition β × Host β :=
  match target with
  | none => (.dropped .targetUnavailable, host)
  | some id =>
    if ((host.ring id).deliver payload).1.isAccepted then
      (.redirected handle, host.modifyRing id fun ring => (ring.deliver payload).2)
    else (.dropped .targetUnavailable, host)

theorem offer_eq_offerTo (host : Host β) (d : DispatcherId) (handle : SocketHandle)
    (payload : β) :
    host.offer d handle payload = host.offerTo handle (host.socket? d handle) payload := rfl

theorem modifyRing_congr {id : RingId} {change other : Ring β → Ring β}
    (same : change (host.ring id) = other (host.ring id)) :
    host.modifyRing id change = host.modifyRing id other := by
  rw [modifyRing, modifyRing, modify_rings, modify_rings, same]

theorem offerTo_eq (host : Host β) (handle : SocketHandle) (target : Option RingId)
    (payload : β) :
    host.offerTo handle target payload =
      (if (target.filter fun id => (host.ring id).hasRoom).isSome then .redirected handle
        else .dropped .targetUnavailable,
        host.take (target.filter fun id => (host.ring id).hasRoom) payload) := by
  cases target with
  | none => rfl
  | some id =>
    rw [offerTo, Option.filter_some]
    cases room : (host.ring id).hasRoom with
    | true =>
      have delivers := Ring.deliver_of_hasRoom room payload
      have accepted : ((host.ring id).deliver payload).1.isAccepted = true := by
        rw [delivers]
        rfl
      have pushed : host.modifyRing id (fun ring => (ring.deliver payload).2) =
          host.modifyRing id fun ring => ring.push payload :=
        modifyRing_congr (congrArg Prod.snd delivers)
      rw [if_pos accepted, if_pos rfl, pushed]
      rfl
    | false => simp [Ring.isAccepted_of_not_hasRoom room payload, take]

theorem miss_countFrame (host : Host β) (d : DispatcherId) :
    ((host.countFrame d).dispatcher d).miss = (host.dispatcher d).miss := by
  rw [countFrame, dispatcher_modifyDispatcher]
  split
  · rfl
  · rfl

theorem classify_eq (host : Host β) (d : DispatcherId) (frame : Frame β) :
    ((host.countFrame d).classifier d).classify frame =
      match host.table.lookup frame.queue with
      | some handle => .redirect handle
      | none => (host.dispatcher d).miss.decision := by
  rw [← host.miss_countFrame d]
  rfl

theorem classifyQueue_of_bound {queue : QueueId} {handle : SocketHandle}
    (bound : host.table.lookup queue = some handle) :
    (host.classifier d).classifyQueue queue = .redirect handle := by
  rw [Classifier.classifyQueue, classifier, bound]

theorem classifyQueue_of_unbound {queue : QueueId}
    (unbound : host.table.lookup queue = none) :
    (host.classifier d).classifyQueue queue = (host.dispatcher d).miss.decision := by
  rw [Classifier.classifyQueue, classifier, unbound]

theorem lookup_of_redirect {queue : QueueId} {handle : SocketHandle}
    (redirects : (host.classifier d).classifyQueue queue = .redirect handle) :
    host.table.lookup queue = some handle := by
  cases bound : host.table.lookup queue with
  | some other =>
    rw [classifyQueue_of_bound bound] at redirects
    cases redirects
    rfl
  | none =>
    rw [classifyQueue_of_unbound bound] at redirects
    cases policy : (host.dispatcher d).miss with
    | drop =>
      rw [policy] at redirects
      cases redirects
    | pass =>
      rw [policy] at redirects
      cases redirects

theorem take_countFrame (host : Host β) (d : DispatcherId) (taker : Option RingId) (payload : β) :
    (host.countFrame d).take taker payload = (host.take taker payload).countFrame d := by
  cases taker with
  | none => rfl
  | some id => rfl

theorem taker?_of_bound {queue : QueueId} {handle : SocketHandle}
    (bound : host.table.lookup queue = some handle) :
    host.taker? d queue =
      (host.socket? d handle).filter fun id => (host.ring id).hasRoom := by
  rw [taker?, target?, bound, Option.bind_some]

theorem taker?_of_unbound {queue : QueueId} (unbound : host.table.lookup queue = none) :
    host.taker? d queue = none := by
  rw [taker?, target?, unbound]
  rfl

theorem verdict_of_unbound {frame : Frame β} (unbound : host.table.lookup frame.queue = none) :
    host.verdict d frame = (host.dispatcher d).miss.disposition frame.payload := by
  rw [verdict, unbound]

theorem verdict_of_bound {frame : Frame β} {handle : SocketHandle}
    (bound : host.table.lookup frame.queue = some handle) :
    host.verdict d frame =
      if (host.taker? d frame.queue).isSome then .redirected handle
      else .dropped .targetUnavailable := by
  rw [verdict, bound]

/-- All that a frame does: the ring that has room for it takes it in, and it is counted by its
answer. -/
theorem dispatch_eq (host : Host β) (d : DispatcherId) (frame : Frame β) :
    host.dispatch d frame =
      (host.verdict d frame,
        (host.take (host.taker? d frame.queue) frame.payload).countAs d
          (host.verdict d frame)) := by
  rw [dispatch, verdict, classify_eq]
  cases bound : host.table.lookup frame.queue with
  | none =>
    rw [taker?_of_unbound bound]
    cases (host.dispatcher d).miss with
    | drop => rfl
    | pass => rfl
  | some handle =>
    have counted : (host.countFrame d).socket? d handle = host.socket? d handle :=
      socket?_of_sockets (host.sockets_countFrame d) d handle
    have offered : (host.countFrame d).offer d handle frame.payload =
        (if (host.taker? d frame.queue).isSome then .redirected handle
          else .dropped .targetUnavailable,
          (host.countFrame d).take (host.taker? d frame.queue) frame.payload) := by
      rw [offer_eq_offerTo, counted, taker?_of_bound bound]
      exact offerTo_eq ..
    rw [take_countFrame] at offered
    simp only [carryOut, transfer, offered]
    rfl

theorem rings_take (host : Host β) (taker : Option RingId) (payload : β) :
    (host.take taker payload).rings =
      match taker with
      | none => host.rings
      | some id => host.rings.set id ((host.ring id).push payload) := by
  cases taker with
  | none => rfl
  | some id => exact host.modify_rings id fun ring => ring.push payload

theorem dispatchers_take (host : Host β) (taker : Option RingId) (payload : β) :
    (host.take taker payload).dispatchers = host.dispatchers := by
  cases taker with
  | none => rfl
  | some id => rfl

theorem dispatcher_take (host : Host β) (d : DispatcherId) (taker : Option RingId) (payload : β) :
    (host.take taker payload).dispatcher d = host.dispatcher d := by
  rw [dispatcher, dispatchers_take, dispatcher]

theorem rings_dispatch (host : Host β) (d : DispatcherId) (frame : Frame β) :
    (host.dispatch d frame).2.rings =
      (host.take (host.taker? d frame.queue) frame.payload).rings := by
  rw [dispatch_eq]
  rfl

theorem dispatch_of_unbound {frame : Frame β} (unbound : host.table.lookup frame.queue = none) :
    (host.dispatch d frame).1 = (host.dispatcher d).miss.disposition frame.payload ∧
      (host.dispatch d frame).2.rings = host.rings := by
  rw [rings_dispatch, taker?_of_unbound unbound, dispatch_eq, verdict_of_unbound unbound]
  exact ⟨rfl, rfl⟩

theorem dispatch_of_live {frame : Frame β} {handle : SocketHandle} {id : RingId}
    (bound : host.table.lookup frame.queue = some handle)
    (leads : host.socket? d handle = some id) :
    if (host.ring id).hasRoom then
      (host.dispatch d frame).1 = .redirected handle ∧
        (host.dispatch d frame).2.rings = host.rings.set id ((host.ring id).push frame.payload)
    else
      (host.dispatch d frame).1 = .dropped .targetUnavailable ∧
        (host.dispatch d frame).2.rings = host.rings := by
  have taker : host.taker? d frame.queue = if (host.ring id).hasRoom then some id else none := by
    rw [taker?_of_bound bound, leads, Option.filter_some]
  rw [rings_dispatch, rings_take, dispatch_eq, verdict_of_bound bound, taker]
  cases (host.ring id).hasRoom with
  | true => exact ⟨rfl, rfl⟩
  | false => exact ⟨rfl, rfl⟩

end Host
end RxSteering
