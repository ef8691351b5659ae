import RxSteering.Proofs.Counting
import RxSteering.Proofs.Rings

/-!
One frame, exactly, in any host at all: with stale bindings, bindings to sockets of other
dispatchers, and rings in any state. It is redirected when every part of its way to a ring is there,
and all that it changes is the end of that ring and two counters of its dispatcher.
-/
namespace RxSteering

variable {β : Type}

namespace Ring

theorem hasRoom_of_present {ring : Ring β} {queued : List β}
    (present : ring.consumer = .present queued) :
    ring.hasRoom = decide (queued.length < ring.depth) := by
  simp only [hasRoom, isClosed, isFull, fill, present]
  by_cases room : queued.length < ring.depth
  · simp [room]
  · simp [room, Nat.le_of_not_lt room]

theorem hasRoom_iff {ring : Ring β} :
    ring.hasRoom = true ↔
      ∃ queued, ring.consumer = .present queued ∧ queued.length < ring.depth := by
  constructor
  · intro room
    have present := consumer_of_present (not_isClosed_of_hasRoom room)
    rw [hasRoom_of_present present, decide_eq_true_eq] at room
    exact ⟨ring.queued, present, room⟩
  · rintro ⟨queued, present, room⟩
    rw [hasRoom_of_present present]
    exact decide_eq_true room

theorem push_of_present {ring : Ring β} {queued : List β}
    (present : ring.consumer = .present queued) (payload : β) :
    ring.push payload = { ring with consumer := .present (queued ++ [payload]) } := by
  have same : ring.queued = queued := by rw [Ring.queued, present]
  rw [push, same]

end Ring

namespace Counters

def afterFrame (counters : Counters) (tally : Tally) : Counters where
  frames := counters.frames + 1
  redirected := counters.redirected + if tally = .redirected then 1 else 0
  droppedUnmapped := counters.droppedUnmapped + if tally = .dropped .unmappedQueue then 1 else 0
  droppedUnavailable :=
    counters.droppedUnavailable + if tally = .dropped .targetUnavailable then 1 else 0
  passed := counters.passed + if tally = .passed then 1 else 0

theorem count_countFrame (counters : Counters) (tally : Tally) :
    counters.countFrame.count tally = counters.afterFrame tally := by
  cases tally with
  | redirected => simp [count, countFrame, afterFrame]
  | dropped reason => cases reason <;> simp [count, countFrame, afterFrame]
  | passed => simp [count, countFrame, afterFrame]

end Counters

namespace Host

variable {host : Host β} {d : DispatcherId} {frame : Frame β} {handle : SocketHandle} {id : RingId}

/-- The whole way of a frame: its queue has a slot, the slot holds the handle, the handle is
registered with this dispatcher and leads to the ring, the consumer of that ring lives, and fewer
payloads are queued there than the ring is deep. -/
structure Delivers (host : Host β) (d : DispatcherId) (frame : Frame β) (handle : SocketHandle)
    (id : RingId) (queued : List β) : Prop where
  inside : frame.rxQueue < host.table.capacity
  bound : host.table.lookup frame.queue = some handle
  registered : host.socket? d handle = some id
  present : (host.ring id).consumer = .present queued
  room : queued.length < (host.ring id).depth

theorem exists_delivers_iff :
    (∃ queued, host.Delivers d frame handle id queued) ↔
      host.table.lookup frame.queue = some handle ∧ host.taker? d frame.queue = some id := by
  constructor
  · rintro ⟨queued, way⟩
    have room : (host.ring id).hasRoom = true :=
      Ring.hasRoom_iff.mpr ⟨queued, way.present, way.room⟩
    refine ⟨way.bound, ?_⟩
    rw [taker?_of_bound way.bound, way.registered, Option.filter_some, if_pos room]
  · rintro ⟨bound, taker⟩
    rw [taker?_of_bound bound] at taker
    obtain ⟨registered, room⟩ := Option.filter_eq_some_iff.mp taker
    obtain ⟨queued, present, below⟩ := Ring.hasRoom_iff.mp room
    have inside := Table.lt_capacity_iff.mpr (Table.inside_of_lookup bound)
    exact ⟨queued, inside, bound, registered, present, below⟩

theorem taker?_eq_none_iff (bound : host.table.lookup frame.queue = some handle) :
    host.taker? d frame.queue = none ↔ ∀ id queued, ¬host.Delivers d frame handle id queued := by
  rw [Option.eq_none_iff_forall_ne_some]
  constructor
  · intro none id queued way
    exact none id (exists_delivers_iff.mp ⟨queued, way⟩).2
  · intro blocked id taker
    obtain ⟨queued, way⟩ := exists_delivers_iff.mpr ⟨bound, taker⟩
    exact blocked id queued way

theorem verdict_cases (host : Host β) (d : DispatcherId) (frame : Frame β) :
    (host.table.lookup frame.queue = none ∧
      host.verdict d frame = (host.dispatcher d).miss.disposition frame.payload) ∨
    (∃ handle, host.table.lookup frame.queue = some handle ∧ host.taker? d frame.queue = none ∧
      host.verdict d frame = .dropped .targetUnavailable) ∨
    (∃ handle id, host.table.lookup frame.queue = some handle ∧
      host.taker? d frame.queue = some id ∧ host.verdict d frame = .redirected handle) := by
  cases bound : host.table.lookup frame.queue with
  | none => exact .inl ⟨rfl, verdict_of_unbound bound⟩
  | some handle =>
    rw [verdict_of_bound bound]
    cases taker : host.taker? d frame.queue with
    | none => exact .inr (.inl ⟨handle, rfl, rfl, rfl⟩)
    | some id => exact .inr (.inr ⟨handle, id, rfl, rfl, rfl⟩)

theorem disposition_ne_redirected (miss : MissPolicy) (payload : β) (handle : SocketHandle) :
    miss.disposition payload ≠ .redirected handle := by
  cases miss <;> simp [MissPolicy.disposition]

theorem disposition_ne_unavailable (miss : MissPolicy) (payload : β) :
    miss.disposition payload ≠ .dropped .targetUnavailable := by
  cases miss <;> simp [MissPolicy.disposition]

theorem verdict_redirected_iff :
    host.verdict d frame = .redirected handle ↔
      ∃ id queued, host.Delivers d frame handle id queued := by
  constructor
  · intro answered
    rcases host.verdict_cases d frame with
      ⟨-, answer⟩ | ⟨other, -, -, answer⟩ | ⟨other, id, bound, taker, answer⟩
    · exact absurd (answer.symm.trans answered) (disposition_ne_redirected _ _ handle)
    · cases answer.symm.trans answered
    · cases answer.symm.trans answered
      exact ⟨id, exists_delivers_iff.mpr ⟨bound, taker⟩⟩
  · rintro ⟨id, delivers⟩
    obtain ⟨bound, taker⟩ := exists_delivers_iff.mp delivers
    rw [verdict_of_bound bound, taker]
    rfl

theorem verdict_unavailable_iff :
    host.verdict d frame = .dropped .targetUnavailable ↔
      ∃ handle, host.table.lookup frame.queue = some handle ∧
        ∀ id queued, ¬host.Delivers d frame handle id queued := by
  constructor
  · intro answered
    rcases host.verdict_cases d frame with
      ⟨-, answer⟩ | ⟨handle, bound, taker, -⟩ | ⟨handle, id, -, -, answer⟩
    · exact absurd (answer.symm.trans answered) (disposition_ne_unavailable _ _)
    · exact ⟨handle, bound, (taker?_eq_none_iff bound).mp taker⟩
    · cases answer.symm.trans answered
  · rintro ⟨handle, bound, blocked⟩
    rw [verdict_of_bound bound, (taker?_eq_none_iff bound).mpr blocked]
    rfl

theorem verdict_missed_iff :
    host.verdict d frame = (host.dispatcher d).miss.disposition frame.payload ↔
      host.table.lookup frame.queue = none := by
  constructor
  · intro answered
    rcases host.verdict_cases d frame with
      ⟨unbound, -⟩ | ⟨handle, -, -, answer⟩ | ⟨handle, id, -, -, answer⟩
    · exact unbound
    · exact absurd (answered.symm.trans answer) (disposition_ne_unavailable _ _)
    · exact absurd (answered.symm.trans answer) (disposition_ne_redirected _ _ handle)
  · intro unbound
    exact verdict_of_unbound unbound

theorem dispatchers_dispatch (host : Host β) (d : DispatcherId) (frame : Frame β) :
    (host.dispatch d frame).2.dispatchers =
      host.dispatchers.modify d fun dispatcher =>
        { dispatcher with
          counters := dispatcher.counters.afterFrame (host.dispatch d frame).1.tally } := by
  rw [dispatch_eq_conclude, dispatchers_conclude, dispatch_eq]
  simp only [count, countFrame, modifyDispatcher, List.modify_modify_eq]
  congr 1
  funext dispatcher
  simp only [Function.comp_apply, Counters.count_countFrame]

theorem rings_of_delivers {queued : List β} (way : host.Delivers d frame handle id queued) :
    (host.dispatch d frame).2.rings =
      host.rings.set id { host.ring id with consumer := .present (queued ++ [frame.payload]) } := by
  have taker := (exists_delivers_iff.mp ⟨queued, way⟩).2
  rw [rings_dispatch, rings_take, taker, ← Ring.push_of_present way.present]

theorem rings_of_blocked (blocked : ∀ handle id queued, ¬host.Delivers d frame handle id queued) :
    (host.dispatch d frame).2.rings = host.rings := by
  have taker : host.taker? d frame.queue = none := by
    cases bound : host.table.lookup frame.queue with
    | none => exact taker?_of_unbound bound
    | some handle => exact (taker?_eq_none_iff bound).mpr (blocked handle)
  rw [rings_dispatch, rings_take, taker]

/-- What a frame was answered on this host, and all that it did to it. -/
structure Dispatched (host : Host β) (d : DispatcherId) (frame : Frame β)
    (disposition : Disposition β) (after : Host β) : Prop where
  redirected : ∀ handle, disposition = .redirected handle ↔
    ∃ id queued, host.Delivers d frame handle id queued
  /-- the slot holds a handle, and some part of the way from there to a ring is missing -/
  unavailable : disposition = .dropped .targetUnavailable ↔
    ∃ handle, host.table.lookup frame.queue = some handle ∧
      ∀ id queued, ¬host.Delivers d frame handle id queued
  missed : disposition = (host.dispatcher d).miss.disposition frame.payload ↔
    host.table.lookup frame.queue = none
  taken : ∀ handle id queued, host.Delivers d frame handle id queued →
    id < host.rings.length ∧
      after.rings = host.rings.set id
        { host.ring id with consumer := .present (queued ++ [frame.payload]) }
  blocked : (∀ handle id queued, ¬host.Delivers d frame handle id queued) →
    after.rings = host.rings
  counted : after.dispatchers = host.dispatchers.modify d fun dispatcher =>
    { dispatcher with counters := dispatcher.counters.afterFrame disposition.tally }
  table : after.table = host.table

/-- A frame is answered by how far its way to a ring goes; the ring at the end of the way has the
payload at its end, one outcome is counted beside the frame, and nothing else changes. -/
theorem dispatch_exact (host : Host β) (d : DispatcherId) (frame : Frame β) :
    host.Dispatched d frame (host.dispatch d frame).1 (host.dispatch d frame).2 := by
  have answer : (host.dispatch d frame).1 = host.verdict d frame := by rw [dispatch_eq]
  constructor
  case blocked => exact rings_of_blocked
  case counted => exact host.dispatchers_dispatch d frame
  case table => exact host.table_dispatch d frame
  case redirected =>
    intro handle
    rw [answer]
    exact verdict_redirected_iff
  case unavailable =>
    rw [answer]
    exact verdict_unavailable_iff
  case missed =>
    rw [answer]
    exact verdict_missed_iff
  case taken =>
    intro handle id queued way
    have present : (host.ring id).isClosed = false := by rw [Ring.isClosed, way.present]
    exact ⟨inside_of_present present, rings_of_delivers way⟩

end Host
end RxSteering
