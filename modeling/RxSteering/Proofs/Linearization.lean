import RxSteering.Proofs.Courses

/-!
Lanes that take turns access by access do what whole dispatches do, one after the other, in the
order in which the payloads found their places. While frames are on their way the host is behind by
the outcomes that are not counted yet and ahead by the frames that are counted already (`Follows`);
when all the lanes are done it is the same host.
-/
namespace RxSteering

variable {β : Type} {d : DispatcherId}

/-- The convoy does what whole dispatches do in the order of its trail. -/
structure Follows (host : Host β) (d : DispatcherId) (lanes : List (Lane β))
    (convoy : Convoy β) : Prop where
  settled : convoy.trail = (host.dispatchEach d convoy.arrivals).1
  counts : convoy.host.countAll d convoy.pending =
    (host.dispatchEach d convoy.arrivals).2.countFrames d convoy.counted.length
  same : convoy.courses.map Course.lane = lanes
  frames : (convoy.trail.map Settlement.frame ++ convoy.toGo).Perm (lanes.flatMap Lane.frames)
  inside : ∀ settlement ∈ convoy.trail, settlement.lane < lanes.length
  courses : ∀ (index : Nat) course, convoy.courses[index]? = some course →
    course.OnWay host d index convoy.trail

namespace Follows

variable {host : Host β} {lanes : List (Lane β)} {convoy : Convoy β} {index : Nat}
  {course next : Course β}

/-- The convoy's host differs from that of the whole dispatches in the counters only. -/
theorem keeps (follows : Follows host d lanes convoy) :
    convoy.host.Alike (host.dispatchEach d convoy.arrivals).2 ∧
      convoy.host.rings = (host.dispatchEach d convoy.arrivals).2.rings := by
  obtain ⟨behind, left⟩ := convoy.host.countAll_keeps d convoy.pending
  obtain ⟨ahead, right⟩ :=
    (host.dispatchEach d convoy.arrivals).2.countFrames_keeps d convoy.counted.length
  rw [follows.counts] at behind left
  exact ⟨behind.symm.trans ahead, left.symm.trans right⟩

theorem taker? (follows : Follows host d lanes convoy) (queue : QueueId) :
    convoy.host.taker? d queue = (host.dispatchEach d convoy.arrivals).2.taker? d queue :=
  follows.keeps.1.taker? fun id _ => by rw [Host.ring, Host.ring, follows.keeps.2]

theorem verdict (follows : Follows host d lanes convoy) (frame : Frame β) :
    convoy.host.verdict d frame = (host.dispatchEach d convoy.arrivals).2.verdict d frame :=
  follows.keeps.1.verdict (follows.taker? frame.queue)

theorem alike (follows : Follows host d lanes convoy) : convoy.host.Alike host :=
  follows.keeps.1.trans (host.alike_dispatchEach convoy.arrivals)

theorem lane_set (follows : Follows host d lanes convoy)
    (here : convoy.courses[index]? = some course) (same : next.lane = course.lane) :
    (convoy.courses.set index next).map Course.lane = lanes := by
  obtain ⟨inside, old⟩ := List.getElem?_eq_some_iff.mp here
  have inMap : index < (convoy.courses.map Course.lane).length := by
    rw [List.length_map]
    exact inside
  have known : (convoy.courses.map Course.lane)[index] = course.lane := by
    rw [List.getElem_map, old]
  rw [List.map_set, same, ← known, List.set_getElem_self]
  exact follows.same

theorem courses_set (follows : Follows host d lanes convoy) {new : List (Settlement β)}
    (own : ∀ settlement ∈ new, settlement.lane = index)
    (onWay : next.OnWay host d index (convoy.trail ++ new)) (other : Nat) (course : Course β)
    (here : (convoy.courses.set index next)[other]? = some course) :
    course.OnWay host d other (convoy.trail ++ new) := by
  rw [List.getElem?_set] at here
  by_cases same : index = other
  · subst same
    rw [if_pos rfl] at here
    split at here
    next =>
      cases here
      exact onWay
    next => cases here
  · rw [if_neg same] at here
    have silent : (new.filter fun settlement => settlement.lane = other) = [] := by
      rw [List.filter_eq_nil_iff]
      intro settlement member
      rw [own settlement member]
      simpa using same
    obtain ⟨passage, frames, answers⟩ := follows.courses other course here
    refine ⟨passage, ?_, ?_⟩
    · rw [List.filter_append, silent, List.append_nil]
      exact frames
    · rw [List.filter_append, silent, List.append_nil]
      exact answers

theorem move (follows : Follows host d lanes convoy)
    (here : convoy.courses[index]? = some course) {after : Host β}
    (same : next.lane = course.lane) (toGo : next.toGo = course.toGo)
    (onWay : next.OnWay host d index convoy.trail)
    (counts : ∀ pending counted,
      (course.tallies ++ pending).Perm (next.tallies ++ convoy.pending) →
      course.counted.length + counted = next.counted.length + convoy.counted.length →
      after.countAll d pending =
        (host.dispatchEach d convoy.arrivals).2.countFrames d counted) :
    Follows host d lanes
      { convoy with host := after, courses := convoy.courses.set index next } where
  settled := follows.settled
  counts := by
    refine counts _ _ (perm_flatMap_set convoy.courses Course.tallies here next) ?_
    have exchange := (perm_flatMap_set convoy.courses Course.counted here next).length_eq
    rw [List.length_append, List.length_append] at exchange
    exact exchange
  same := follows.lane_set here same
  frames := by
    have exchange := perm_flatMap_set convoy.courses Course.toGo here next
    rw [toGo] at exchange
    exact (((List.perm_append_left_iff course.toGo).mp exchange).append_left _).trans follows.frames
  inside := follows.inside
  courses := by
    intro other course there
    have unchanged : next.OnWay host d index (convoy.trail ++ []) := by
      rwa [List.append_nil]
    have kept := follows.courses_set (fun _ member => absurd member List.not_mem_nil) unchanged
      other course there
    rwa [List.append_nil] at kept

theorem counts_settle (follows : Follows host d lanes convoy) (frame : Frame β)
    {pending : List Tally} {counted : Nat}
    (owes : pending.Perm ((convoy.host.verdict d frame).tally :: convoy.pending))
    (remains : 1 + counted = convoy.counted.length) :
    (convoy.host.take (convoy.host.taker? d frame.queue) frame.payload).countAll d pending =
      ((host.dispatchEach d convoy.arrivals).2.dispatch d frame).2.countFrames d counted := by
  let whole := (host.dispatchEach d convoy.arrivals).2
  let conclude := fun host : Host β =>
    host.conclude d (whole.taker? d frame.queue) frame.payload (whole.verdict d frame).tally
  rw [follows.verdict] at owes
  -- the conclusion goes past the counts that are owed on one side and ahead on the other
  calc
    _ = (conclude convoy.host).countAll d convoy.pending := by
      rw [follows.taker?]
      exact Host.countAll_of_perm owes _ d
    _ = conclude (convoy.host.countAll d convoy.pending) := Host.countAll_conclude ..
    _ = conclude (whole.countFrames d (counted + 1)) := by
      rw [follows.counts, ← remains, Nat.add_comm]
    _ = (conclude (whole.countFrame d)).countFrames d counted := by
      rw [Host.countFrames_conclude, Host.countFrames_countFrame]
    _ = (whole.dispatch d frame).2.countFrames d counted := by
      rw [Host.dispatch_eq_conclude]

theorem frames_settle (follows : Follows host d lanes convoy)
    (here : convoy.courses[index]? = some course) {frame : Frame β}
    (toGo : course.toGo = frame :: next.toGo) :
    (convoy.trail.map Settlement.frame ++ [frame] ++
      (convoy.courses.set index next).flatMap Course.toGo).Perm (lanes.flatMap Lane.frames) := by
  have exchange := perm_flatMap_set convoy.courses Course.toGo here next
  rw [toGo] at exchange
  have same : ([frame] ++ (convoy.courses.set index next).flatMap Course.toGo).Perm
      convoy.toGo := by
    apply (List.perm_append_left_iff next.toGo).mp
    exact (List.perm_append_comm_assoc ..).trans exchange
  rw [List.append_assoc]
  exact (same.append_left _).trans follows.frames

theorem settle (follows : Follows host d lanes convoy)
    (here : convoy.courses[index]? = some course) {passage : Passage β} {payload : β}
    {disposition : Disposition β} (going : course.passage = some passage)
    (carries : passage.payload? = some payload)
    (settles : (convoy.host.pass d passage).2.disposition? = some disposition) :
    Follows host d lanes
      { host := (convoy.host.pass d passage).1
        courses := convoy.courses.set index (course.reach (convoy.host.pass d passage).2)
        trail := convoy.trail ++
          course.settlements index passage (convoy.host.pass d passage).2 } := by
  let frame := course.lane.frame payload
  let next : Course β := { course with passage := some (.settled disposition) }
  have onWay := follows.courses index course here
  have isOn : passage.IsOn convoy.host d course.lane.queue :=
    (onWay.passage passage going).of_alike follows.alike.symm
  obtain ⟨passes, decided, taken, wasCounted⟩ := Host.pass_settles isOn carries settles
  have answer : disposition =
      ((host.dispatchEach d convoy.arrivals).2.dispatch d frame).1 := by
    rw [Host.dispatch_eq, decided]
    exact follows.verdict frame
  -- the settlement that the whole dispatch makes
  let last : Settlement β :=
    ⟨index, frame, disposition, (host.dispatchEach d convoy.arrivals).2.taker? d frame.queue⟩
  have new : course.settlements index passage (.settled disposition) = [last] := by
    simp only [Course.settlements, carries, Passage.disposition?, taken]
    exact follows.taker? frame.queue ▸ rfl
  rw [passes, new]
  have order : (convoy.trail ++ [last]).map Settlement.arrival =
      convoy.arrivals ++ [(index, frame)] := List.map_append ..
  refine ⟨?_, ?_, follows.lane_set here rfl, ?_, ?_, ?_⟩
  · rw [Convoy.arrivals, order, Host.dispatchEach_append, ← answer, ← follows.settled]
  · rw [Convoy.arrivals, order, Host.dispatchEach_append]
    apply follows.counts_settle frame
    · have owes := perm_flatMap_set convoy.courses Course.tallies here next
      rw [Course.tallies, Course.pending_of_passage going carries] at owes
      exact decided ▸ owes
    · have remains := (perm_flatMap_set convoy.courses Course.counted here next).length_eq
      have counted : course.counted = [payload] := by
        rw [Course.counted, going, Option.bind_some, wasCounted]
        rfl
      rw [List.length_append, List.length_append, counted] at remains
      exact remains.trans (Nat.zero_add _)
  · rw [List.map_append]
    apply follows.frames_settle here
    rw [Course.toGo, Course.held_of_passage going carries]
    rfl
  · intro settlement member
    rcases List.mem_append.mp member with old | new
    · exact follows.inside settlement old
    · rw [List.mem_singleton.mp new, ← follows.same, List.length_map]
      exact (List.getElem?_eq_some_iff.mp here).1
  · have placed : next.OnWay host d index (convoy.trail ++ [last]) :=
      onWay.settle going carries (rfl : last.lane = index) rfl
    apply follows.courses_set _ placed
    intro settlement member
    rw [List.mem_singleton.mp member]

theorem idle (follows : Follows host d lanes convoy)
    (here : convoy.courses[index]? = some course) (same : next.lane = course.lane)
    (toGo : next.toGo = course.toGo) (pending : next.pending = course.pending)
    (counted : next.counted = course.counted) (onWay : next.OnWay host d index convoy.trail) :
    Follows host d lanes { convoy with courses := convoy.courses.set index next } := by
  apply follows.move here same toGo onWay
  intro owes n exchange remains
  rw [Course.tallies, Course.tallies, pending] at exchange
  rw [counted] at remains
  rw [Host.countAll_of_perm ((List.perm_append_left_iff _).mp exchange), follows.counts,
    Nat.add_left_cancel remains]

theorem depart (follows : Follows host d lanes convoy)
    (here : convoy.courses[index]? = some course) {payload : β} {rest : List β}
    (idle : course.passage = none) (ahead : course.ahead = payload :: rest) :
    Follows host d lanes
      { convoy with
        courses := convoy.courses.set index
          { course with
            ahead := rest
            passage := some (.arrived (course.lane.frame payload)) } } := by
  obtain ⟨-, ⟨settled, frames, payloads⟩, answers⟩ := follows.courses index course here
  have held : course.held = [] := by
    rw [Course.held, idle]
    rfl
  have pending : course.pending = [] := by
    rw [Course.pending, idle]
    rfl
  have counted : course.counted = [] := by
    rw [Course.counted, idle]
    rfl
  refine follows.idle here ?_ ?_ ?_ ?_ ?_
  · rfl
  · rw [Course.toGo, Course.toGo, held, ahead]
    rfl
  · exact pending.symm
  · exact counted.symm
  · refine ⟨?_, ⟨settled, frames, ?_⟩, ?_⟩
    · intro passage going
      cases going
      rfl
    · rw [payloads, held, ahead, List.append_assoc, List.append_assoc]
      rfl
    · rw [answers, pending]
      rfl

theorem reach (follows : Follows host d lanes convoy)
    (here : convoy.courses[index]? = some course) {passage after : Passage β}
    (going : course.passage = some passage) (isOn : after.IsOn host d course.lane.queue)
    (payload : after.payload? = passage.payload?)
    (disposition : after.disposition? = passage.disposition?)
    (counted : after.counted? = passage.counted?) :
    Follows host d lanes
      { convoy with
        courses := convoy.courses.set index { course with passage := some after } } := by
  refine follows.idle here ?_ ?_ ?_ ?_ ?_
  · rfl
  · rw [Course.toGo, Course.toGo, Course.held, Course.held, going, Option.bind_some,
      Option.bind_some, payload]
  · rw [Course.pending, Course.pending, going, Option.bind_some, Option.bind_some, disposition]
  · rw [Course.counted, Course.counted, going, Option.bind_some, Option.bind_some, counted]
  · exact (follows.courses index course here).reach going isOn payload disposition

theorem enter (follows : Follows host d lanes convoy)
    (here : convoy.courses[index]? = some course) {frame : Frame β}
    (going : course.passage = some (.arrived frame)) :
    Follows host d lanes
      { convoy with
        host := convoy.host.countFrame d
        courses := convoy.courses.set index { course with passage := some (.counted frame) } } := by
  have onWay := follows.courses index course here
  have isOn : frame.queue = course.lane.queue := onWay.passage _ going
  refine follows.move here ?_ ?_ ?_ ?_
  · rfl
  · rw [Course.toGo, Course.toGo, Course.held, Course.held, going]
    rfl
  · exact onWay.reach going isOn rfl rfl
  · intro pending counted exchange remains
    rw [Course.tallies, Course.pending, going] at exchange
    rw [Course.counted, going] at remains
    have more : counted = convoy.counted.length + 1 := by
      rw [← Nat.zero_add counted, Nat.add_comm _ 1]
      exact remains
    have owes : pending.Perm convoy.pending := exchange
    have comm (host : Host β) (tally : Tally) := host.count_countFrame d tally
    rw [Host.countAll_comm comm, Host.countAll_of_perm owes, follows.counts, more]
    rfl

theorem answer (follows : Follows host d lanes convoy)
    (here : convoy.courses[index]? = some course) {disposition : Disposition β}
    (going : course.passage = some (.settled disposition)) :
    Follows host d lanes
      { convoy with
        host := convoy.host.countOutcome d disposition
        courses := convoy.courses.set index
          { course with passage := none, answers := course.answers ++ [disposition] } } := by
  obtain ⟨-, frames, answers⟩ := follows.courses index course here
  rw [Course.held, going] at frames
  rw [Course.pending, going] at answers
  refine follows.move here ?_ ?_ ?_ ?_
  · rfl
  · rw [Course.toGo, Course.toGo, Course.held, Course.held, going]
    rfl
  · refine ⟨fun passage going => (by cases going), frames, ?_⟩
    rw [answers]
    exact (List.append_nil _).symm
  · intro pending counted exchange remains
    rw [Course.tallies, Course.pending, going] at exchange
    rw [Course.counted, going] at remains
    have same : counted = convoy.counted.length := Nat.add_left_cancel remains
    have counts : (convoy.host.count d disposition.tally).countAll d pending =
        convoy.host.countAll d convoy.pending := Host.countAll_of_perm exchange convoy.host d
    rw [Host.countOutcome_eq, counts, follows.counts, same]

theorem start (host : Host β) (d : DispatcherId) (lanes : List (Lane β)) :
    Follows host d lanes (Convoy.start host lanes) where
  settled := rfl
  counts := by
    have nothing : (Convoy.start host lanes).pending = [] := by
      simp [Convoy.pending, Convoy.start, Course.tallies, Course.pending, List.flatMap_map]
    have none : (Convoy.start host lanes).counted = [] := by
      simp [Convoy.counted, Convoy.start, Course.counted, List.flatMap_map]
    rw [nothing, none]
    rfl
  same := by
    rw [Convoy.start, List.map_map]
    exact List.map_id lanes
  frames := by
    rw [Convoy.toGo, Convoy.start, List.flatMap_map]
    exact .refl _
  inside := fun _ member => absurd member List.not_mem_nil
  courses := by
    intro index course here
    simp only [Convoy.start, List.getElem?_map] at here
    obtain ⟨lane, -, rfl⟩ := Option.map_eq_some_iff.mp here
    exact ⟨fun passage going => (by cases going), ⟨[], rfl, rfl⟩, rfl⟩

theorem append_nil (follows : Follows host d lanes convoy) :
    Follows host d lanes { convoy with trail := convoy.trail ++ [] } := by
  rw [List.append_nil]
  exact follows

theorem turn (follows : Follows host d lanes convoy) (index : Nat) :
    Follows host d lanes (convoy.turn d index) := by
  cases here : convoy.courses[index]? with
  | none => simpa only [Convoy.turn, here] using follows
  | some course =>
    cases going : course.passage with
    | none =>
      cases ahead : course.ahead with
      | nil => simpa only [Convoy.turn, here, going, ahead] using follows
      | cons payload rest =>
        simpa only [Convoy.turn, here, going, ahead] using follows.depart here going ahead
    | some passage =>
      have moves : convoy.turn d index =
          { host := (convoy.host.pass d passage).1
            courses := convoy.courses.set index (course.reach (convoy.host.pass d passage).2)
            trail := convoy.trail ++
              course.settlements index passage (convoy.host.pass d passage).2 } := by
        simp only [Convoy.turn, here, going]
      have onWay := follows.courses index course here
      have isOn := onWay.passage passage going
      rw [moves]
      cases passage with
      | arrived frame => exact (follows.enter here going).append_nil
      | counted frame =>
        have decides : (Passage.decided ((convoy.host.classifier d).classify frame)
            frame.payload).IsOn host d course.lane.queue := by
          change (convoy.host.classifier d).classifyQueue frame.queue = _
          rw [follows.alike.classifyQueue d frame.queue, isOn]
        exact (follows.reach here going decides rfl rfl rfl).append_nil
      | decided decision payload =>
        cases decision with
        | redirect handle =>
          have aims : (Passage.aimed handle (convoy.host.socket? d handle) payload).IsOn host d
              course.lane.queue :=
            ⟨Host.lookup_of_redirect isOn.symm,
              Host.socket?_of_sockets follows.alike.sockets d handle⟩
          exact (follows.reach here going aims rfl rfl rfl).append_nil
        | drop => exact follows.settle here going rfl rfl
        | pass => exact follows.settle here going rfl rfl
      | aimed handle target payload => exact follows.settle here going rfl rfl
      | settled disposition => exact (follows.answer here going).append_nil
      | answered disposition => exact isOn.elim

theorem run (follows : Follows host d lanes convoy) (schedule : List Nat) :
    Follows host d lanes (convoy.run d schedule) := by
  induction schedule generalizing convoy with
  | nil => exact follows
  | cons index rest ih => exact ih (follows.turn index)

/-- When all the lanes are done, the convoy has done what whole dispatches do in the order of its
trail, and each lane has got its answers in its own order. -/
theorem done (follows : Follows host d lanes convoy) (done : convoy.isDone = true) :
    convoy.host = (host.dispatchEach d convoy.arrivals).2 ∧
      (convoy.trail.map Settlement.frame).Perm (lanes.flatMap Lane.frames) ∧
      ∀ (index : Nat) lane, lanes[index]? = some lane →
        (convoy.settledFrom index).map Settlement.frame = lane.frames ∧
        ∃ course, convoy.courses[index]? = some course ∧
          course.answers = (convoy.settledFrom index).map Settlement.disposition := by
  have ended (course : Course β) (member : course ∈ convoy.courses) :
      course.passage = none ∧ course.ahead = [] := by
    have finished := List.all_eq_true.mp done course member
    rw [Course.isDone, Bool.and_eq_true, Option.isNone_iff_eq_none, List.isEmpty_iff] at finished
    exact finished
  have pending : convoy.pending = [] := by
    rw [Convoy.pending, List.flatMap_eq_nil_iff]
    intro course member
    rw [Course.tallies, Course.pending, (ended course member).1]
    rfl
  have counted : convoy.counted = [] := by
    rw [Convoy.counted, List.flatMap_eq_nil_iff]
    intro course member
    rw [Course.counted, (ended course member).1]
    rfl
  have toGo : convoy.toGo = [] := by
    rw [Convoy.toGo, List.flatMap_eq_nil_iff]
    intro course member
    rw [Course.toGo, Course.held, (ended course member).1, (ended course member).2]
    rfl
  have counts := follows.counts
  have frames := follows.frames
  rw [pending, counted] at counts
  rw [toGo, List.append_nil] at frames
  refine ⟨counts, frames, ?_⟩
  intro index lane here
  rw [← follows.same, List.getElem?_map] at here
  obtain ⟨course, there, rfl⟩ := Option.map_eq_some_iff.mp here
  obtain ⟨idle, ahead⟩ := ended course (List.mem_of_getElem? there)
  obtain ⟨-, ⟨settled, frames, payloads⟩, answers⟩ := follows.courses index course there
  rw [Course.held, idle, ahead] at payloads
  rw [Course.pending, idle] at answers
  have all : settled = course.lane.payloads := by
    simpa using payloads.symm
  refine ⟨?_, course, there, ?_⟩
  · rw [Convoy.settledFrom, frames, all, Lane.frames]
  · rw [Convoy.settledFrom, answers]
    exact (List.append_nil _).symm

end Follows

end RxSteering
