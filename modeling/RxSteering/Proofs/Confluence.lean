import RxSteering.Proofs.Exchange

/-!
Lanes that dispatch at one time are confluent. Whatever turns they take, the counters and the number
of payloads in each ring are those of running the lanes one after another; each ring keeps the order
of every lane and takes in a first part of it; and a lane that shares no ring is answered as if it
were alone.
-/
namespace RxSteering

variable {β : Type} {d : DispatcherId}

namespace Host

variable {host : Host β}

theorem accepted_prefix (host : Host β) (d : DispatcherId) {arrivals : List (Nat × Frame β)}
    {lane : Nat} {queue : QueueId}
    (own : ∀ arrival ∈ arrivals, arrival.1 = lane → arrival.2.queue = queue) (id : RingId) :
    ((host.dispatchEach d arrivals).1.filter fun settlement =>
        settlement.lane = lane && settlement.taker = some id) <+:
      (host.dispatchEach d arrivals).1.filter fun settlement => settlement.lane = lane := by
  induction arrivals generalizing host with
  | nil => exact List.nil_prefix
  | cons arrival rest ih =>
    obtain ⟨source, frame⟩ := arrival
    have ownLater : ∀ arrival ∈ rest, arrival.1 = lane → arrival.2.queue = queue :=
      fun arrival member => own arrival (.tail _ member)
    have later := ih (host.dispatch d frame).2 ownLater
    by_cases here : source = lane
    · by_cases taken : host.taker? d frame.queue = some id
      · simpa [dispatchEach, here, taken] using later
      · -- the ring has no place for the lane now, and gets none while nobody takes payloads out
        have nothing : ((host.dispatch d frame).2.dispatchEach d rest).1.filter (fun settlement =>
            settlement.lane = lane && settlement.taker = some id) = [] := by
          rw [List.filter_eq_nil_iff]
          intro settlement member accepted
          rw [Bool.and_eq_true, decide_eq_true_iff, decide_eq_true_iff] at accepted
          have arrived : settlement.arrival ∈ rest := by
            rw [← (host.dispatch d frame).2.arrivals_dispatchEach rest]
            exact List.mem_map_of_mem member
          have before := taker?_of_dispatch (taker?_of_dispatchEach member accepted.2)
          have sameQueue : settlement.frame.queue = frame.queue :=
            (ownLater _ arrived accepted.1).trans (own _ (.head _) here).symm
          rw [sameQueue] at before
          exact taken before
        simp [dispatchEach, taken, nothing]
    · simpa [dispatchEach, here] using later

/-- A lane is answered as if it were alone, if no other aims at its ring. -/
theorem dispatchEach_alone {a b : Host β} (alike : a.Alike b) {arrivals : List (Nat × Frame β)}
    {lane : Nat} {target : Option RingId}
    (own : ∀ arrival ∈ arrivals, arrival.1 = lane → b.target? d arrival.2.queue = target)
    (others : ∀ arrival ∈ arrivals, arrival.1 ≠ lane → ∀ id, target = some id →
      b.target? d arrival.2.queue ≠ some id)
    (same : ∀ id, target = some id → a.ring id = b.ring id) :
    let alone := b.dispatchAll d ((arrivals.filter fun arrival => arrival.1 = lane).map Prod.snd)
    ((a.dispatchEach d arrivals).1.filter fun settlement => settlement.lane = lane).map
        Settlement.disposition = alone.1 ∧
      ∀ id, target = some id → (a.dispatchEach d arrivals).2.ring id = alone.2.ring id := by
  induction arrivals generalizing a b with
  | nil => exact ⟨rfl, same⟩
  | cons arrival rest ih =>
    obtain ⟨source, frame⟩ := arrival
    have left := a.alike_dispatch d frame
    by_cases here : source = lane
    · have right := b.alike_dispatch d frame
      have aims : b.target? d frame.queue = target := own _ (.head _) here
      have taker : a.taker? d frame.queue = b.taker? d frame.queue :=
        alike.taker? fun id leads => same id (aims.symm.trans leads)
      have answer : (a.dispatch d frame).1 = (b.dispatch d frame).1 := by
        rw [dispatch_eq, dispatch_eq]
        exact alike.verdict taker
      obtain ⟨answers, rings⟩ := ih (left.trans (alike.trans right.symm))
        (fun arrival member source => (right.target? d _).trans (own _ (.tail _ member) source))
        (fun arrival member source id leads => by
          rw [right.target? d]
          exact others _ (.tail _ member) source id leads)
        (fun id leads => by rw [ring_dispatch, ring_dispatch, taker, same id leads])
      refine ⟨?_, ?_⟩
      · simpa [dispatchEach, dispatchAll, here, answer] using answers
      · simpa [dispatchEach, dispatchAll, here] using rings
    · have apart (id : RingId) (leads : target = some id) : a.taker? d frame.queue ≠ some id := by
        intro taken
        have aims := (Option.filter_eq_some_iff.mp taken).1
        rw [alike.target? d] at aims
        exact others _ (.head _) here id leads aims
      obtain ⟨answers, rings⟩ := ih (left.trans alike)
        (fun arrival member => own _ (.tail _ member))
        (fun arrival member => others _ (.tail _ member))
        (fun id leads => by rw [ring_dispatch, if_neg (apart id leads), same id leads])
      refine ⟨?_, ?_⟩
      · simpa [dispatchEach, here] using answers
      · simpa [dispatchEach, here] using rings

end Host

namespace Follows

variable {host : Host β} {lanes : List (Lane β)} {convoy : Convoy β} {index : Nat} {lane : Lane β}

theorem lane_of_arrival (follows : Follows host d lanes convoy) (done : convoy.isDone = true)
    {arrival : Nat × Frame β} (member : arrival ∈ convoy.arrivals) :
    ∃ lane, lanes[arrival.1]? = some lane ∧ arrival.2.queue = lane.queue := by
  obtain ⟨settlement, listed, rfl⟩ := List.mem_map.mp member
  have inside := follows.inside settlement listed
  have here : lanes[settlement.lane]? = some lanes[settlement.lane] :=
    List.getElem?_eq_getElem inside
  obtain ⟨-, -, each⟩ := follows.done done
  obtain ⟨frames, -⟩ := each settlement.lane _ here
  have framed : settlement.frame ∈ (convoy.settledFrom settlement.lane).map Settlement.frame :=
    List.mem_map_of_mem (List.mem_filter.mpr ⟨listed, decide_eq_true rfl⟩)
  rw [frames] at framed
  obtain ⟨payload, -, same⟩ := List.mem_map.mp framed
  refine ⟨_, here, ?_⟩
  change settlement.frame.queue = _
  rw [← same]
  rfl

theorem frames_from (follows : Follows host d lanes convoy) (done : convoy.isDone = true)
    (here : lanes[index]? = some lane) :
    (convoy.arrivals.filter fun arrival => arrival.1 = index).map Prod.snd = lane.frames := by
  obtain ⟨-, -, each⟩ := follows.done done
  obtain ⟨frames, -⟩ := each index lane here
  rw [← frames, Convoy.arrivals, List.filter_map, List.map_map]
  rfl

theorem queue_of_arrival (follows : Follows host d lanes convoy) (done : convoy.isDone = true)
    (here : lanes[index]? = some lane) {arrival : Nat × Frame β}
    (member : arrival ∈ convoy.arrivals) (source : arrival.1 = index) :
    arrival.2.queue = lane.queue := by
  obtain ⟨known, found, queue⟩ := follows.lane_of_arrival done member
  rw [source, here] at found
  cases found
  exact queue

theorem in_turn (follows : Follows host d lanes convoy) (done : convoy.isDone = true) :
    let inTurn := (host.dispatchAll d (lanes.flatMap Lane.frames)).2
    convoy.host.dispatchers = inTurn.dispatchers ∧
      ∀ id, (convoy.host.ring id).queued.length = (inTurn.ring id).queued.length := by
  intro inTurn
  obtain ⟨after, order, -⟩ := follows.done done
  -- the lanes that the frames come from do not matter here
  let unmarked := (lanes.flatMap Lane.frames).map (Prod.mk 0)
  have frames : unmarked.map Prod.snd = lanes.flatMap Lane.frames := by
    rw [List.map_map]
    exact List.map_id _
  have same : (convoy.arrivals.map Prod.snd).Perm (unmarked.map Prod.snd) := by
    rw [frames, Convoy.arrivals, List.map_map]
    exact order
  have ended : inTurn = (host.dispatchEach d unmarked).2 := by
    rw [← congrArg Prod.snd (host.dispatchAll_eq unmarked), frames]
  rw [after, ended]
  exact Host.dispatchEach_perm same host d

theorem taken_prefix (follows : Follows host d lanes convoy) (done : convoy.isDone = true)
    (here : lanes[index]? = some lane) (id : RingId) :
    ((convoy.takenBy id).filter fun settlement => settlement.lane = index).map
      (fun settlement => settlement.frame.payload) <+: lane.payloads := by
  obtain ⟨-, -, each⟩ := follows.done done
  obtain ⟨frames, -⟩ := each index lane here
  have payloads : (convoy.settledFrom index).map (fun settlement => settlement.frame.payload) =
      lane.payloads := by
    have carried := congrArg (List.map Frame.payload) frames
    rw [List.map_map, Lane.frames, List.map_map] at carried
    exact carried.trans (List.map_id _)
  have own (arrival : Nat × Frame β) (member : arrival ∈ convoy.arrivals)
      (source : arrival.1 = index) : arrival.2.queue = lane.queue :=
    follows.queue_of_arrival done here member source
  have first := (host.accepted_prefix d own id).map fun settlement => settlement.frame.payload
  rw [← follows.settled] at first
  rw [Convoy.takenBy, List.filter_filter, ← payloads]
  exact first

theorem as_alone (follows : Follows host d lanes convoy) (done : convoy.isDone = true)
    (here : lanes[index]? = some lane) {target : Option RingId}
    (aims : host.target? d lane.queue = target)
    (others : ∀ (other : Nat) rival, lanes[other]? = some rival → other ≠ index →
      ∀ id, target = some id → host.target? d rival.queue ≠ some id) :
    (convoy.settledFrom index).map Settlement.disposition = (host.dispatchAll d lane.frames).1 ∧
      ∀ id, target = some id →
        convoy.host.ring id = (host.dispatchAll d lane.frames).2.ring id := by
  obtain ⟨after, -, -⟩ := follows.done done
  have ownAims : ∀ arrival ∈ convoy.arrivals, arrival.1 = index →
      host.target? d arrival.2.queue = target := by
    intro arrival member source
    rw [follows.queue_of_arrival done here member source]
    exact aims
  have otherAims : ∀ arrival ∈ convoy.arrivals, arrival.1 ≠ index → ∀ id, target = some id →
      host.target? d arrival.2.queue ≠ some id := by
    intro arrival member source
    obtain ⟨rival, found, queue⟩ := follows.lane_of_arrival done member
    rw [queue]
    exact others arrival.1 rival found source
  have answered := Host.dispatchEach_alone (.refl host) ownAims otherAims fun _ _ => rfl
  rw [follows.frames_from done here, ← follows.settled, ← after] at answered
  exact answered

end Follows

/-- What a lane comes to on this course, when the lanes began on this host and all of them are
done. -/
structure Convoy.Serves (convoy : Convoy β) (host : Host β) (d : DispatcherId)
    (lanes : List (Lane β)) (index : Nat) (lane : Lane β) (course : Course β) : Prop where
  frames : (convoy.settledFrom index).map Settlement.frame = lane.frames
  answers : (convoy.settledFrom index).map Settlement.disposition = course.answers
  /-- a ring takes in a first part of the payloads, in the lane's order -/
  order : ∀ id, ((convoy.takenBy id).filter fun settlement => settlement.lane = index).map
    (fun settlement => settlement.frame.payload) <+: lane.payloads
  /-- a lane with a ring to itself is answered as if it were alone, and so is the ring -/
  alone : ∀ id, host.target? d lane.queue = some id →
    (∀ (other : Nat) rival, lanes[other]? = some rival → other ≠ index →
      host.target? d rival.queue ≠ some id) →
    course.answers = (host.dispatchAll d lane.frames).1 ∧
      convoy.host.ring id = (host.dispatchAll d lane.frames).2.ring id
  aimless : host.target? d lane.queue = none →
    course.answers = (host.dispatchAll d lane.frames).1

/-- However the lanes take turns, the counters move and the rings fill as they do when the lanes run
one after another. -/
theorem lanes_are_confluent (host : Host β) (d : DispatcherId) (lanes : List (Lane β))
    (schedule : List Nat) (done : ((Convoy.start host lanes).run d schedule).isDone = true) :
    let convoy := (Convoy.start host lanes).run d schedule
    let inTurn := (host.dispatchAll d (lanes.flatMap Lane.frames)).2
    (convoy.host.dispatchers = inTurn.dispatchers ∧
      ∀ id, (convoy.host.ring id).queued.length = (inTurn.ring id).queued.length) ∧
    (∀ id, (convoy.host.ring id).queued = (host.ring id).queued ++
      (convoy.takenBy id).map fun settlement => settlement.frame.payload) ∧
    ∀ (index : Nat) lane, lanes[index]? = some lane →
      ∃ course, convoy.courses[index]? = some course ∧
        convoy.Serves host d lanes index lane course := by
  intro convoy inTurn
  have follows : Follows host d lanes convoy := (Follows.start host d lanes).run schedule
  obtain ⟨after, -, each⟩ := follows.done done
  refine ⟨follows.in_turn done, ?_, ?_⟩
  · intro id
    rw [after, Host.queued_dispatchEach, ← follows.settled]
    rfl
  · intro index lane here
    obtain ⟨frames, course, there, answers⟩ := each index lane here
    refine ⟨course, there, ?_⟩
    constructor
    case frames => exact frames
    case answers => exact answers.symm
    case order => exact follows.taken_prefix done here
    case alone =>
      intro id aims others
      have apart : ∀ (other : Nat) rival, lanes[other]? = some rival → other ≠ index →
          ∀ ring, some id = some ring → host.target? d rival.queue ≠ some ring := by
        rintro other rival found differs _ ⟨⟩
        exact others other rival found differs
      obtain ⟨answered, rings⟩ := follows.as_alone done here aims apart
      exact ⟨answers.trans answered, rings id rfl⟩
    case aimless =>
      intro aims
      have apart : ∀ (other : Nat) rival, lanes[other]? = some rival → other ≠ index →
          ∀ ring, none = some ring → host.target? d rival.queue ≠ some ring := by
        rintro other rival found differs ring ⟨⟩
      exact answers.trans (follows.as_alone done here aims apart).1

def crossing : Host Nat :=
  (Host.start .unbound [.pass]).run
    [.openRing 2, .openRing 1, .request 0 (.register 0), .request 0 (.register 0),
      .request 0 (.register 1), .request 0 (.bind ⟨0⟩ ⟨0⟩), .request 0 (.bind ⟨1⟩ ⟨1⟩),
      .request 0 (.bind ⟨2⟩ ⟨2⟩)]

/-- The first two lanes meet in one ring, and nothing is bound to the queue of the last. -/
def crossingLanes : List (Lane Nat) :=
  [⟨⟨0⟩, [1, 2]⟩, ⟨⟨1⟩, [3, 4]⟩, ⟨⟨2⟩, [5, 6]⟩, ⟨⟨3⟩, [7]⟩]

def crossingTurns : List Nat := (List.replicate 12 [0, 1, 2, 3]).flatten

theorem lanes_are_confluent_where_they_cross :
    let convoy := (Convoy.start crossing crossingLanes).run 0 crossingTurns
    let inTurn := (crossing.dispatchAll 0 (crossingLanes.flatMap Lane.frames)).2
    convoy.isDone = true ∧ convoy.host.dispatchers = inTurn.dispatchers ∧
      (convoy.host.ring 0).queued.length = (inTurn.ring 0).queued.length ∧
      (convoy.host.ring 0).queued = [1, 3] ∧ (inTurn.ring 0).queued = [1, 2] ∧
      ∃ course, convoy.courses[2]? = some course ∧
        course.answers = [.redirected ⟨2⟩, .dropped .targetUnavailable] := by
  have done : ((Convoy.start crossing crossingLanes).run 0 crossingTurns).isDone = true := by
    decide +kernel
  obtain ⟨⟨counters, lengths⟩, -, each⟩ :=
    lanes_are_confluent crossing 0 crossingLanes crossingTurns done
  obtain ⟨course, there, serves⟩ := each 2 ⟨⟨2⟩, [5, 6]⟩ rfl
  have aims : crossing.target? 0 ⟨2⟩ = some 1 := by decide +kernel
  have others : ∀ (other : Nat) rival, crossingLanes[other]? = some rival → other ≠ 2 →
      crossing.target? 0 rival.queue ≠ some 1 := by
    intro other rival here apart
    rcases other with _ | _ | _ | _ | more
    · cases here
      decide +kernel
    · cases here
      decide +kernel
    · exact absurd rfl apart
    · cases here
      decide +kernel
    · cases here
  have answers : (crossing.dispatchAll 0 (Lane.frames ⟨⟨2⟩, [5, 6]⟩)).1 =
      [.redirected ⟨2⟩, .dropped .targetUnavailable] := by decide +kernel
  refine ⟨done, counters, lengths 0, ?_, ?_, course, there, ?_⟩
  · decide +kernel
  · decide +kernel
  · exact (serves.alone 1 aims others).1.trans answers

end RxSteering
