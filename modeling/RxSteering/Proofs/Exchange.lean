import Mathlib.Logic.Function.Basic
import RxSteering.Proofs.Linearization
import RxSteering.Proofs.Rings

/-!
The order in which frames are dispatched does not matter to the counters and to how many payloads
each ring takes in. A frame takes a place in the ring it aims at as long as there is one, and which
of two frames comes first makes no difference to the places that are left (`grants_perm`); the
answers, apart from socket and payload, follow from who gets a place.
-/
namespace RxSteering

variable {β : Type} {d : DispatcherId}

/-- Where the frames on a queue go. -/
inductive Aim where
  | unbound
  /-- the bound socket is gone -/
  | gone
  | ring (id : RingId)
  deriving DecidableEq, Repr

namespace Aim

def ring? : Aim → Option RingId
  | ring id => some id
  | _ => none

def place (rooms : RingId → Nat) : Aim → Bool × (RingId → Nat)
  | ring id => (decide (0 < rooms id), Function.update rooms id (rooms id - 1))
  | _ => (false, rooms)

def tally (miss : MissPolicy) (aim : Aim) (placed : Bool) : Tally :=
  match aim, miss with
  | unbound, .drop => .dropped .unmappedQueue
  | unbound, .pass => .passed
  | _, _ => if placed then .redirected else .dropped .targetUnavailable

theorem place_comm (rooms : RingId → Nat) (one other : Aim) :
    (place (place rooms one).2 other).2 = (place (place rooms other).2 one).2 := by
  cases one with
  | unbound => rfl
  | gone => rfl
  | ring id =>
    cases other with
    | unbound => rfl
    | gone => rfl
    | ring target =>
      by_cases same : id = target
      · rw [same]
      · simp only [place, Function.update_of_ne same, Function.update_of_ne (Ne.symm same)]
        exact Function.update_comm same ..

theorem place_of_ne (rooms : RingId → Nat) {one other : Aim} (apart : one ≠ other) :
    (place (place rooms one).2 other).1 = (place rooms other).1 := by
  cases one with
  | unbound => rfl
  | gone => rfl
  | ring id =>
    cases other with
    | unbound => rfl
    | gone => rfl
    | ring target =>
      have elsewhere : target ≠ id := fun same => apart (congrArg ring same.symm)
      simp only [place, Function.update_of_ne elsewhere]

end Aim

/-- Who gets a place when frames come in this order. -/
def grants (rooms : RingId → Nat) : List Aim → List (Aim × Bool)
  | [] => []
  | aim :: rest => (aim, (aim.place rooms).1) :: grants (aim.place rooms).2 rest

theorem grants_perm {aims others : List Aim} (same : aims.Perm others) (rooms : RingId → Nat) :
    (grants rooms aims).Perm (grants rooms others) := by
  induction same generalizing rooms with
  | nil => exact .nil
  | cons aim _ ih => exact (ih _).cons _
  | swap one other rest =>
    -- frames that aim at the same ring are told apart by nothing but their order
    by_cases alike : one = other
    · rw [alike]
    · simp only [grants, Aim.place_of_ne rooms alike, Aim.place_of_ne rooms (Ne.symm alike),
        Aim.place_comm rooms one other]
      exact .swap ..
  | trans _ _ first second => exact (first rooms).trans (second rooms)

namespace Ring

def room (ring : Ring β) : Nat := if ring.isClosed then 0 else ring.depth - ring.fill

theorem hasRoom_eq (ring : Ring β) : ring.hasRoom = decide (0 < ring.room) := by
  rw [hasRoom, room, isFull]
  cases ring.isClosed with
  | true => rfl
  | false =>
    rw [if_neg Bool.false_ne_true, Bool.not_false, Bool.true_and, ← decide_not]
    exact decide_eq_decide.mpr (Nat.not_le.trans Nat.sub_pos_iff_lt.symm)

theorem room_push {ring : Ring β} (room : ring.hasRoom = true) (payload : β) :
    (ring.push payload).room = ring.room - 1 := by
  have present := not_isClosed_of_hasRoom room
  have fill : ring.fill = ring.queued.length := by
    rw [Ring.fill, queued, consumer_of_present present]
  have pushed : (ring.push payload).fill = ring.fill + 1 := by
    rw [fill]
    exact List.length_append ..
  rw [Ring.room, Ring.room, present, pushed]
  change ring.depth - (ring.fill + 1) = ring.depth - ring.fill - 1
  omega

end Ring

namespace Host

variable {host : Host β}

def aim (host : Host β) (d : DispatcherId) (queue : QueueId) : Aim :=
  match (host.table.lookup queue).map (host.socket? d) with
  | none => .unbound
  | some none => .gone
  | some (some id) => .ring id

def rooms (host : Host β) (id : RingId) : Nat := (host.ring id).room

theorem ring?_aim (host : Host β) (d : DispatcherId) (queue : QueueId) :
    (host.aim d queue).ring? = host.target? d queue := by
  unfold aim target?
  cases host.table.lookup queue with
  | none => rfl
  | some handle =>
    rw [Option.map_some, Option.bind_some]
    cases host.socket? d handle with
    | none => rfl
    | some id => rfl

theorem aim_of_alike {a b : Host β} (alike : a.Alike b) : a.aim d = b.aim d := by
  have leads : a.socket? d = b.socket? d := funext (socket?_of_sockets alike.sockets d)
  funext queue
  rw [aim, aim, alike.table, leads]

theorem taker?_eq (host : Host β) (d : DispatcherId) (queue : QueueId) :
    host.taker? d queue =
      (host.aim d queue).ring?.filter fun id => decide (0 < host.rooms id) := by
  rw [taker?, ring?_aim]
  simp only [Ring.hasRoom_eq]
  rfl

theorem ring_dispatch (host : Host β) (d : DispatcherId) (frame : Frame β) (id : RingId) :
    (host.dispatch d frame).2.ring id =
      if host.taker? d frame.queue = some id then (host.ring id).push frame.payload
      else host.ring id := by
  have after : (host.dispatch d frame).2.ring id =
      (host.take (host.taker? d frame.queue) frame.payload).ring id := by
    rw [ring, rings_dispatch, ring]
  rw [after]
  cases taker : host.taker? d frame.queue with
  | none => rfl
  | some target =>
    rw [ring_take (hasRoom_of_taker? taker)]
    by_cases same : target = id
    · rw [same, if_pos rfl, if_pos rfl]
    · rw [if_neg same, if_neg fun other => same (Option.some.inj other)]

theorem rooms_dispatch (host : Host β) (d : DispatcherId) (frame : Frame β) (id : RingId) :
    (host.dispatch d frame).2.rooms id =
      if host.taker? d frame.queue = some id then host.rooms id - 1 else host.rooms id := by
  rw [rooms, ring_dispatch]
  split
  next taken => exact Ring.room_push (hasRoom_of_taker? taken) frame.payload
  next => rfl

theorem place_dispatch (host : Host β) (d : DispatcherId) (frame : Frame β) :
    (host.aim d frame.queue).place host.rooms =
      ((host.taker? d frame.queue).isSome, (host.dispatch d frame).2.rooms) := by
  have after : (host.dispatch d frame).2.rooms = fun id =>
      if host.taker? d frame.queue = some id then host.rooms id - 1 else host.rooms id :=
    funext (host.rooms_dispatch d frame)
  rw [after, taker?_eq]
  cases host.aim d frame.queue with
  | unbound => rfl
  | gone => rfl
  | ring id =>
    rw [Aim.place, Aim.ring?, Option.filter_some]
    by_cases left : 0 < host.rooms id
    · rw [decide_eq_true left, if_pos rfl]
      refine Prod.ext rfl (funext fun other => ?_)
      change Function.update host.rooms id (host.rooms id - 1) other =
        if some id = some other then host.rooms other - 1 else host.rooms other
      by_cases same : id = other
      · rw [same, Function.update_self, if_pos rfl]
      · rw [Function.update_of_ne (Ne.symm same), if_neg fun found => same (Option.some.inj found)]
    · have none : host.rooms id = 0 := Nat.eq_zero_of_not_pos left
      have same : Function.update host.rooms id (host.rooms id - 1) = host.rooms := by
        rw [Function.update_eq_self_iff, none]
      rw [decide_eq_false left, if_neg Bool.false_ne_true, same]
      rfl

theorem tally_verdict (host : Host β) (d : DispatcherId) (frame : Frame β) :
    (host.verdict d frame).tally = (host.aim d frame.queue).tally (host.dispatcher d).miss
      (host.taker? d frame.queue).isSome := by
  cases bound : host.table.lookup frame.queue with
  | none =>
    rw [verdict_of_unbound bound, aim, bound]
    cases (host.dispatcher d).miss with
    | drop => rfl
    | pass => rfl
  | some handle =>
    rw [verdict_of_bound bound, aim, bound, Option.map_some]
    cases host.socket? d handle with
    | none =>
      cases host.taker? d frame.queue with
      | none => rfl
      | some taker => rfl
    | some id =>
      cases host.taker? d frame.queue with
      | none => rfl
      | some taker => rfl

theorem grants_dispatchEach (host : Host β) (d : DispatcherId) (arrivals : List (Nat × Frame β)) :
    (host.dispatchEach d arrivals).1.map
        (fun settlement => (host.aim d settlement.frame.queue, settlement.taker.isSome)) =
      grants host.rooms (arrivals.map fun arrival => host.aim d arrival.2.queue) := by
  induction arrivals generalizing host with
  | nil => rfl
  | cons arrival rest ih =>
    obtain ⟨lane, frame⟩ := arrival
    have later := ih (host.dispatch d frame).2
    rw [aim_of_alike (host.alike_dispatch d frame)] at later
    rw [List.map_cons, grants, host.place_dispatch, ← later]
    rfl

theorem tallies_dispatchEach (host : Host β) (d : DispatcherId)
    (arrivals : List (Nat × Frame β)) :
    (host.dispatchEach d arrivals).1.map (fun settlement => settlement.disposition.tally) =
      (grants host.rooms (arrivals.map fun arrival => host.aim d arrival.2.queue)).map
        fun grant => grant.1.tally (host.dispatcher d).miss grant.2 := by
  rw [← grants_dispatchEach, List.map_map]
  induction arrivals generalizing host with
  | nil => rfl
  | cons arrival rest ih =>
    obtain ⟨lane, frame⟩ := arrival
    have alike := host.alike_dispatch d frame
    have later := ih (host.dispatch d frame).2
    rw [aim_of_alike alike, miss_of_policies alike.policies d] at later
    have first : (host.dispatch d frame).1.tally =
        (host.aim d frame.queue).tally (host.dispatcher d).miss
          (host.taker? d frame.queue).isSome := by
      rw [dispatch_eq]
      exact host.tally_verdict d frame
    exact congrArg₂ List.cons first later

theorem dispatchers_dispatchEach (host : Host β) (d : DispatcherId)
    (arrivals : List (Nat × Frame β)) :
    (host.dispatchEach d arrivals).2.dispatchers =
      ((host.countFrames d arrivals.length).countAll d
        ((host.dispatchEach d arrivals).1.map fun settlement =>
          settlement.disposition.tally)).dispatchers := by
  induction arrivals generalizing host with
  | nil => rfl
  | cons arrival rest ih =>
    obtain ⟨lane, frame⟩ := arrival
    let after := (host.dispatch d frame).2
    let tallies := (after.dispatchEach d rest).1.map fun settlement => settlement.disposition.tally
    let tally := (host.verdict d frame).tally
    have concludes : after = (host.countFrame d).conclude d (host.taker? d frame.queue)
        frame.payload tally := host.dispatch_eq_conclude d frame
    have answered : (host.dispatch d frame).1.tally = tally := by
      rw [dispatch_eq]
    calc
      (after.dispatchEach d rest).2.dispatchers =
          ((after.countFrames d rest.length).countAll d tallies).dispatchers := ih after
      _ = (((host.countFrames d (rest.length + 1)).countAll d tallies).count d
          tally).dispatchers := by
        rw [concludes, countFrames_conclude, countFrames_countFrame, countAll_conclude,
          dispatchers_conclude]
      _ = ((host.countFrames d (rest.length + 1)).countAll d (tally :: tallies)).dispatchers := by
        rw [← countAll_comm fun host other => host.count_comm d tally other]
        rfl
      _ = _ := by
        rw [← answered]
        rfl

theorem queued_dispatch (host : Host β) (d : DispatcherId) (frame : Frame β) (id : RingId) :
    ((host.dispatch d frame).2.ring id).queued = (host.ring id).queued ++
      if host.taker? d frame.queue = some id then [frame.payload] else [] := by
  rw [ring_dispatch]
  split
  next => rw [Ring.queued_push]
  next => rw [List.append_nil]

theorem queued_dispatchEach (host : Host β) (d : DispatcherId) (arrivals : List (Nat × Frame β))
    (id : RingId) :
    ((host.dispatchEach d arrivals).2.ring id).queued = (host.ring id).queued ++
      ((host.dispatchEach d arrivals).1.filter fun settlement => settlement.taker = some id).map
        fun settlement => settlement.frame.payload := by
  induction arrivals generalizing host with
  | nil => exact (List.append_nil _).symm
  | cons arrival rest ih =>
    obtain ⟨lane, frame⟩ := arrival
    change (((host.dispatch d frame).2.dispatchEach d rest).2.ring id).queued = _
    rw [ih, queued_dispatch, List.append_assoc]
    by_cases taken : host.taker? d frame.queue = some id
    · simp [dispatchEach, taken]
    · simp [dispatchEach, taken]

theorem aim_of_taker? {queue : QueueId} {id : RingId} (taken : host.taker? d queue = some id) :
    host.aim d queue = .ring id := by
  rw [taker?_eq] at taken
  obtain ⟨aims, -⟩ := Option.filter_eq_some_iff.mp taken
  cases goes : host.aim d queue with
  | unbound =>
    rw [goes] at aims
    cases aims
  | gone =>
    rw [goes] at aims
    cases aims
  | ring other =>
    rw [goes] at aims
    cases aims
    rfl

/-- Places are only taken: who gets one later would have got it before. -/
theorem taker?_of_dispatch {frame : Frame β} {queue : QueueId} {id : RingId}
    (taken : (host.dispatch d frame).2.taker? d queue = some id) :
    host.taker? d queue = some id := by
  have fewer : (host.dispatch d frame).2.rooms id ≤ host.rooms id := by
    rw [rooms_dispatch]
    split
    next => exact Nat.sub_le ..
    next => exact Nat.le_refl _
  rw [taker?_eq, Option.filter_eq_some_iff] at taken ⊢
  rw [aim_of_alike (host.alike_dispatch d frame)] at taken
  exact ⟨taken.1, decide_eq_true (Nat.lt_of_lt_of_le (of_decide_eq_true taken.2) fewer)⟩

theorem taker?_of_dispatchEach {arrivals : List (Nat × Frame β)} {settlement : Settlement β}
    {id : RingId} (member : settlement ∈ (host.dispatchEach d arrivals).1)
    (taken : settlement.taker = some id) : host.taker? d settlement.frame.queue = some id := by
  induction arrivals generalizing host with
  | nil => cases member
  | cons arrival rest ih =>
    rcases List.mem_cons.mp member with rfl | later
    · exact taken
    · exact taker?_of_dispatch (ih later)

theorem accepted_eq_count (host : Host β) (d : DispatcherId) (arrivals : List (Nat × Frame β))
    (id : RingId) :
    ((host.dispatchEach d arrivals).1.filter fun settlement => settlement.taker = some id).length =
      (grants host.rooms (arrivals.map fun arrival => host.aim d arrival.2.queue)).count
        (.ring id, true) := by
  rw [← grants_dispatchEach, List.count, List.countP_map, ← List.countP_eq_length_filter]
  apply List.countP_congr
  intro settlement member
  rw [decide_eq_true_iff, Function.comp_apply, beq_iff_eq]
  constructor
  · intro taken
    rw [aim_of_taker? (taker?_of_dispatchEach member taken), taken]
    rfl
  · -- a place that is granted is in the ring that the frame aims at
    intro granted
    obtain ⟨aims, placed⟩ := Prod.mk.inj granted
    obtain ⟨other, taken⟩ := Option.isSome_iff_exists.mp placed
    rw [aim_of_taker? (taker?_of_dispatchEach member taken)] at aims
    cases aims
    exact taken

theorem dispatchEach_perm {arrivals others : List (Nat × Frame β)}
    (same : (arrivals.map Prod.snd).Perm (others.map Prod.snd)) (host : Host β)
    (d : DispatcherId) :
    (host.dispatchEach d arrivals).2.dispatchers = (host.dispatchEach d others).2.dispatchers ∧
      ∀ id, ((host.dispatchEach d arrivals).2.ring id).queued.length =
        ((host.dispatchEach d others).2.ring id).queued.length := by
  have aims : (arrivals.map fun arrival => host.aim d arrival.2.queue).Perm
      (others.map fun arrival => host.aim d arrival.2.queue) := by
    have mapped := same.map fun frame => host.aim d frame.queue
    rwa [List.map_map, List.map_map] at mapped
  have granted := grants_perm aims host.rooms
  have size : arrivals.length = others.length := by
    simpa using same.length_eq
  refine ⟨?_, fun id => ?_⟩
  · rw [dispatchers_dispatchEach, dispatchers_dispatchEach, tallies_dispatchEach,
      tallies_dispatchEach, size, countAll_of_perm (granted.map _)]
  · rw [queued_dispatchEach, queued_dispatchEach, List.length_append, List.length_append,
      List.length_map, List.length_map, accepted_eq_count, accepted_eq_count, granted.count_eq]

end Host
end RxSteering
