import RxSteering.Proofs.Lanes

/-!
What is known of a lane on its way. While the table and the sockets stay as they are, a frame that
has passed some of its accesses is where a whole dispatch would take it, the access that settles it
does to the rings what a whole dispatch does, and the trail holds what became of the lane's payloads
so far.
-/
namespace RxSteering

variable {β : Type} {d : DispatcherId}

def Settlement.arrival (settlement : Settlement β) : Nat × Frame β :=
  (settlement.lane, settlement.frame)

namespace Host

def dispatchEach (host : Host β) (d : DispatcherId) :
    List (Nat × Frame β) → List (Settlement β) × Host β
  | [] => ([], host)
  | (lane, frame) :: rest =>
    let (disposition, after) := host.dispatch d frame
    let (more, last) := after.dispatchEach d rest
    (⟨lane, frame, disposition, host.taker? d frame.queue⟩ :: more, last)

theorem dispatchEach_append (host : Host β) (arrivals : List (Nat × Frame β)) (lane : Nat)
    (frame : Frame β) :
    let earlier := host.dispatchEach d arrivals
    host.dispatchEach d (arrivals ++ [(lane, frame)]) =
      (earlier.1 ++ [⟨lane, frame, (earlier.2.dispatch d frame).1,
        earlier.2.taker? d frame.queue⟩], (earlier.2.dispatch d frame).2) := by
  induction arrivals generalizing host with
  | nil => rfl
  | cons arrival rest ih =>
    obtain ⟨other, first⟩ := arrival
    simp only [List.cons_append, dispatchEach, ih]

theorem dispatchAll_eq (host : Host β) (arrivals : List (Nat × Frame β)) :
    host.dispatchAll d (arrivals.map Prod.snd) =
      ((host.dispatchEach d arrivals).1.map Settlement.disposition,
        (host.dispatchEach d arrivals).2) := by
  induction arrivals generalizing host with
  | nil => rfl
  | cons arrival rest ih =>
    obtain ⟨lane, frame⟩ := arrival
    simp only [List.map_cons, dispatchAll, dispatchEach, ih]

theorem arrivals_dispatchEach (host : Host β) (arrivals : List (Nat × Frame β)) :
    (host.dispatchEach d arrivals).1.map Settlement.arrival = arrivals := by
  induction arrivals generalizing host with
  | nil => rfl
  | cons arrival rest ih => exact congrArg (List.cons arrival) (ih _)

theorem alike_dispatchEach (host : Host β) (arrivals : List (Nat × Frame β)) :
    (host.dispatchEach d arrivals).2.Alike host := by
  induction arrivals generalizing host with
  | nil => exact .refl host
  | cons arrival rest ih => exact (ih _).trans (host.alike_dispatch d arrival.2)

end Host

/-- What is known of a frame on its way while the table and the sockets stay as they are. -/
def Passage.IsOn (host : Host β) (d : DispatcherId) (queue : QueueId) : Passage β → Prop
  | arrived frame => frame.queue = queue
  | counted frame => frame.queue = queue
  | decided decision _ => decision = (host.classifier d).classifyQueue queue
  | aimed handle target _ =>
    host.table.lookup queue = some handle ∧ target = host.socket? d handle
  | settled _ => True
  | answered _ => False

def Passage.counted? : Passage β → Option β
  | counted frame => some frame.payload
  | decided _ payload => some payload
  | aimed _ _ payload => some payload
  | _ => none

theorem Passage.disposition?_of_payload? {passage : Passage β} {payload : β}
    (carries : passage.payload? = some payload) : passage.disposition? = none := by
  cases passage with
  | arrived frame => rfl
  | counted frame => rfl
  | decided decision payload => rfl
  | aimed handle target payload => rfl
  | settled disposition => cases carries
  | answered disposition => cases carries

theorem Passage.IsOn.of_alike {a b : Host β} {queue : QueueId} {passage : Passage β}
    (isOn : passage.IsOn a d queue) (alike : a.Alike b) : passage.IsOn b d queue := by
  cases passage with
  | arrived frame => exact isOn
  | counted frame => exact isOn
  | decided decision payload => exact isOn.trans (alike.classifyQueue d queue)
  | aimed handle target payload =>
    obtain ⟨bound, leads⟩ := isOn
    rw [alike.table] at bound
    exact ⟨bound, leads.trans (Host.socket?_of_sockets alike.sockets d handle)⟩
  | settled disposition => trivial
  | answered disposition => exact isOn

namespace Course

def held (course : Course β) : List β := (course.passage.bind Passage.payload?).toList

def counted (course : Course β) : List β := (course.passage.bind Passage.counted?).toList

def pending (course : Course β) : List (Disposition β) :=
  (course.passage.bind Passage.disposition?).toList

def tallies (course : Course β) : List Tally := course.pending.map Disposition.tally

def toGo (course : Course β) : List (Frame β) :=
  (course.held ++ course.ahead).map course.lane.frame

end Course

namespace Convoy

/-- The frames in the order in which they found their places. -/
def arrivals (convoy : Convoy β) : List (Nat × Frame β) := convoy.trail.map Settlement.arrival

def counted (convoy : Convoy β) : List β := convoy.courses.flatMap Course.counted

def pending (convoy : Convoy β) : List Tally := convoy.courses.flatMap Course.tallies

def toGo (convoy : Convoy β) : List (Frame β) := convoy.courses.flatMap Course.toGo

end Convoy

/-- What the trail says of lane `index`. -/
structure Course.OnWay (course : Course β) (host : Host β) (d : DispatcherId) (index : Nat)
    (trail : List (Settlement β)) : Prop where
  passage : ∀ passage, course.passage = some passage → passage.IsOn host d course.lane.queue
  frames : ∃ settled, (trail.filter fun settlement => settlement.lane = index).map
      Settlement.frame = settled.map course.lane.frame ∧
    course.lane.payloads = settled ++ course.held ++ course.ahead
  answers : (trail.filter fun settlement => settlement.lane = index).map
      Settlement.disposition = course.answers ++ course.pending

namespace Course

variable {host : Host β} {course : Course β} {index : Nat} {trail : List (Settlement β)}
  {passage : Passage β} {payload : β}

theorem held_of_passage (going : course.passage = some passage)
    (carries : passage.payload? = some payload) : course.held = [payload] := by
  rw [held, going, Option.bind_some, carries]
  rfl

theorem pending_of_passage (going : course.passage = some passage)
    (carries : passage.payload? = some payload) : course.pending = [] := by
  rw [pending, going, Option.bind_some, Passage.disposition?_of_payload? carries]
  rfl

theorem OnWay.reach (onWay : course.OnWay host d index trail)
    (going : course.passage = some passage) {next : Passage β}
    (isOn : next.IsOn host d course.lane.queue) (payload : next.payload? = passage.payload?)
    (disposition : next.disposition? = passage.disposition?) :
    ({ course with passage := some next } : Course β).OnWay host d index trail := by
  obtain ⟨-, frames, answers⟩ := onWay
  rw [held, going, Option.bind_some, ← payload] at frames
  rw [pending, going, Option.bind_some, ← disposition] at answers
  refine ⟨?_, frames, answers⟩
  intro after reached
  cases reached
  exact isOn

theorem OnWay.settle (onWay : course.OnWay host d index trail)
    (going : course.passage = some passage) (carries : passage.payload? = some payload)
    {last : Settlement β} (own : last.lane = index)
    (frame : last.frame = course.lane.frame payload) :
    ({ course with passage := some (.settled last.disposition) } : Course β).OnWay host d index
      (trail ++ [last]) := by
  obtain ⟨-, ⟨settled, frames, payloads⟩, answers⟩ := onWay
  rw [held_of_passage going carries] at payloads
  rw [pending_of_passage going carries, List.append_nil] at answers
  have more : (trail ++ [last]).filter (fun settlement => settlement.lane = index) =
      (trail.filter fun settlement => settlement.lane = index) ++ [last] := by
    rw [List.filter_append, List.filter_singleton, own, decide_eq_true rfl, cond_true]
  refine ⟨?_, ⟨settled ++ [payload], ?_, ?_⟩, ?_⟩
  · intro after reached
    cases reached
    trivial
  · rw [more, List.map_append, frames, List.map_append, List.map_singleton, frame]
    rfl
  · rw [payloads]
    exact (List.append_nil _).symm ▸ rfl
  · rw [more, List.map_append, answers]
    rfl

end Course

namespace Host

variable {host : Host β} {queue : QueueId} {handle : SocketHandle}

theorem pass_settles {passage : Passage β} {payload : β} {disposition : Disposition β}
    (isOn : passage.IsOn host d queue)
    (carries : passage.payload? = some payload)
    (settles : (host.pass d passage).2.disposition? = some disposition) :
    host.pass d passage = (host.take (host.taker? d queue) payload, .settled disposition) ∧
      disposition = host.verdict d ⟨queue.index, payload⟩ ∧
      (if disposition.tally = .redirected then passage.target? else none) = host.taker? d queue ∧
      passage.counted? = some payload := by
  cases passage with
  | arrived frame => cases settles
  | counted frame => cases settles
  | decided decision carried =>
    cases carries
    change decision = (host.classifier d).classifyQueue queue at isOn
    cases bound : host.table.lookup queue with
    | some handle =>
      -- a frame for a socket is not settled by its decision
      rw [isOn, classifyQueue_of_bound bound] at settles
      cases settles
    | none =>
      have misses : decision = (host.dispatcher d).miss.decision :=
        isOn.trans (classifyQueue_of_unbound bound)
      have answers : host.verdict d ⟨queue.index, payload⟩ =
          (host.dispatcher d).miss.disposition payload := verdict_of_unbound bound
      subst misses
      rw [answers, taker?_of_unbound bound]
      cases policy : (host.dispatcher d).miss with
      | drop =>
        rw [policy] at settles
        cases settles
        exact ⟨rfl, rfl, rfl, rfl⟩
      | pass =>
        rw [policy] at settles
        cases settles
        exact ⟨rfl, rfl, rfl, rfl⟩
  | aimed handle target carried =>
    cases carries
    obtain ⟨bound, rfl⟩ := isOn
    have offered := host.offerTo_eq handle (host.socket? d handle) payload
    rw [← taker?_of_bound bound] at offered
    have passes : host.pass d (.aimed handle (host.socket? d handle) payload) =
        (host.take (host.taker? d queue) payload, .settled
          (if (host.taker? d queue).isSome then .redirected handle
            else .dropped .targetUnavailable)) := by
      simp only [pass, offered]
    have answers : host.verdict d ⟨queue.index, payload⟩ =
        if (host.taker? d queue).isSome then .redirected handle
          else .dropped .targetUnavailable := verdict_of_bound bound
    rw [passes] at settles ⊢
    cases settles
    refine ⟨rfl, answers.symm, ?_, rfl⟩
    cases taker : host.taker? d queue with
    | none => rfl
    | some id =>
      rw [taker?_of_bound bound] at taker
      exact (Option.filter_eq_some_iff.mp taker).1
  | settled other => cases carries
  | answered other => cases carries

end Host

end RxSteering
