import Mathlib.Data.List.Infix
import RxSteering.Proofs.RingFlow
import RxSteering.Proofs.Transcript

/-!
A receive ring over its whole history, as its answers tell it. What it took in, in order, is what it
gave out followed by what is queued, for as long as the consumer is there; it never holds more than
its depth; a delivery is refused only for lack of a consumer or of room; and the end of the stream
comes when the queue is empty and every producer is gone, not before.
-/
namespace RxSteering.Ring

variable {β : Type} {ring : Ring β}

def acceptedIn : Operation β × Answer β → List β
  | (.deliver payload, .delivery .accepted) => [payload]
  | _ => []

def receivedIn : Operation β × Answer β → List β
  | (_, .taken payload) => payload.toList
  | (_, .receipt receipt) => receipt.payload?.toList
  | (_, .payloads payloads) => payloads
  | _ => []

def Operation.isClone : Operation β → Bool
  | addProducer => true
  | _ => false

def Operation.isDrop : Operation β → Bool
  | dropProducer => true
  | _ => false

theorem deliver_eq (ring : Ring β) (payload : β) :
    ring.deliver payload =
      if ring.isClosed then (.closed payload, ring)
      else if ring.isFull then (.full payload, ring) else (.accepted, ring.push payload) := by
  cases closed : ring.isClosed with
  | true =>
    rw [if_pos rfl]
    exact ring.deliver_of_gone payload closed
  | false =>
    rw [if_neg Bool.false_ne_true]
    cases full : ring.isFull with
    | true => exact ring.deliver_of_full payload closed full
    | false => exact ring.deliver_of_room payload closed full

theorem isClosed_deliver (ring : Ring β) (payload : β) :
    (ring.deliver payload).2.isClosed = ring.isClosed := by
  rw [deliver_eq]
  cases closed : ring.isClosed with
  | true => simpa using closed
  | false =>
    cases ring.isFull with
    | true => simpa using closed
    | false => rfl

theorem fill_of_present (present : ring.isClosed = false) : ring.fill = ring.queued.length := by
  rw [fill, consumer_of_present present]

theorem receive_eq (ring : Ring β) :
    ring.receive.1.payload? = ring.tryReceive.1 ∧ ring.receive.2 = ring.tryReceive.2 :=
  Prod.mk.inj ring.receiveInTime_eq

theorem isClosed_perform (ring : Ring β) (operation : Operation β) :
    (ring.perform operation).2.isClosed = true ↔
      ring.isClosed = true ∨ operation = .dropConsumer := by
  cases operation with
  | deliver payload =>
    change (ring.deliver payload).2.isClosed = true ↔ _
    rw [isClosed_deliver]
    simp
  | tryReceive =>
    change ring.tryReceive.2.isClosed = true ↔ _
    rw [ring.gives_tryReceive.same]
    simp
  | receive =>
    change ring.receive.2.isClosed = true ↔ _
    rw [ring.receive_eq.2, ring.gives_tryReceive.same]
    simp
  | drain =>
    change ring.drain.2.isClosed = true ↔ _
    rw [ring.gives_drain.same]
    simp
  | dropConsumer => simp [perform, dropConsumer, isClosed]
  | isFull => simp [perform]
  | addProducer => simp [perform, addProducer, isClosed]
  | dropProducer => simp [perform, dropProducer, isClosed]
  | length => simp [perform]
  | isEmpty => simp [perform]

theorem balance_perform (ring : Ring β) (operation : Operation β)
    (present : (ring.perform operation).2.isClosed = false) :
    ring.queued ++ acceptedIn (operation, (ring.perform operation).1) =
      receivedIn (operation, (ring.perform operation).1) ++ (ring.perform operation).2.queued := by
  cases operation with
  | deliver payload =>
    simp only [perform, deliver_eq]
    cases closed : ring.isClosed with
    | true => simp [acceptedIn, receivedIn]
    | false =>
      cases full : ring.isFull with
      | true => simp [acceptedIn, receivedIn]
      | false => simp [acceptedIn, receivedIn, queued_push]
  | tryReceive => simpa [perform, acceptedIn, receivedIn] using ring.gives_tryReceive.balance
  | receive =>
    simpa [perform, acceptedIn, receivedIn, ring.receive_eq] using ring.gives_tryReceive.balance
  | drain => simpa [perform, acceptedIn, receivedIn] using ring.gives_drain.balance
  | dropConsumer => cases present
  | isFull => simp [perform, acceptedIn, receivedIn]
  | addProducer => simp [perform, acceptedIn, receivedIn, addProducer, queued]
  | dropProducer => simp [perform, acceptedIn, receivedIn, dropProducer, queued]
  | length => simp [perform, acceptedIn, receivedIn]
  | isEmpty => simp [perform, acceptedIn, receivedIn]

theorem queued_of_closed (closed : ring.isClosed = true) : ring.queued = [] := by
  unfold isClosed at closed
  unfold queued
  split at closed
  · cases closed
  · rfl

theorem acceptedIn_cases (ring : Ring β) (operation : Operation β) :
    acceptedIn (operation, (ring.perform operation).1) = [] ∨
      (ring.queued.length < ring.depth ∧
        ∃ payload, acceptedIn (operation, (ring.perform operation).1) = [payload]) := by
  cases operation with
  | deliver payload =>
    simp only [perform, deliver_eq]
    cases closed : ring.isClosed with
    | true => exact .inl rfl
    | false =>
      cases full : ring.isFull with
      | true => exact .inl rfl
      | false =>
        right
        have room : ¬ ring.depth ≤ ring.fill := of_decide_eq_false full
        rw [fill_of_present closed] at room
        exact ⟨Nat.lt_of_not_le room, payload, rfl⟩
  | tryReceive => exact .inl rfl
  | receive => exact .inl rfl
  | drain => exact .inl rfl
  | dropConsumer => exact .inl rfl
  | isFull => exact .inl rfl
  | addProducer => exact .inl rfl
  | dropProducer => exact .inl rfl
  | length => exact .inl rfl
  | isEmpty => exact .inl rfl

theorem shape_tryReceive (ring : Ring β) :
    ring.tryReceive.2.depth = ring.depth ∧ ring.tryReceive.2.producers = ring.producers := by
  unfold tryReceive
  split
  · exact ⟨rfl, rfl⟩
  · exact ⟨rfl, rfl⟩

theorem shape_drain (ring : Ring β) :
    ring.drain.2.depth = ring.depth ∧ ring.drain.2.producers = ring.producers := by
  unfold drain
  split
  · exact ⟨rfl, rfl⟩
  · exact ⟨rfl, rfl⟩

theorem shape_deliver (ring : Ring β) (payload : β) :
    (ring.deliver payload).2.depth = ring.depth ∧
      (ring.deliver payload).2.producers = ring.producers := by
  rw [deliver_eq]
  cases ring.isClosed with
  | true => exact ⟨rfl, rfl⟩
  | false =>
    cases ring.isFull with
    | true => exact ⟨rfl, rfl⟩
    | false => exact ⟨rfl, rfl⟩

theorem depth_perform (ring : Ring β) (operation : Operation β) :
    (ring.perform operation).2.depth = ring.depth := by
  cases operation with
  | deliver payload => exact (ring.shape_deliver payload).1
  | tryReceive => exact ring.shape_tryReceive.1
  | receive =>
    change ring.receive.2.depth = ring.depth
    rw [ring.receive_eq.2, ring.shape_tryReceive.1]
  | drain => exact ring.shape_drain.1
  | dropConsumer => rfl
  | isFull => rfl
  | addProducer => rfl
  | dropProducer => rfl
  | length => rfl
  | isEmpty => rfl

theorem producers_perform (ring : Ring β) (operation : Operation β) :
    (ring.perform operation).2.producers =
      ring.producers + operation.isClone.toNat - operation.isDrop.toNat := by
  cases operation with
  | deliver payload => exact (ring.shape_deliver payload).2
  | tryReceive => exact ring.shape_tryReceive.2
  | receive =>
    change ring.receive.2.producers = ring.producers
    rw [ring.receive_eq.2, ring.shape_tryReceive.2]
  | drain => exact ring.shape_drain.2
  | dropConsumer => rfl
  | isFull => rfl
  | addProducer => rfl
  | dropProducer => rfl
  | length => rfl
  | isEmpty => rfl

structure Bounded (depth : Nat) (ring : Ring β) : Prop where
  same : ring.depth = depth
  fits : ring.queued.length ≤ depth

theorem Bounded.perform {depth : Nat} (bounded : ring.Bounded depth) (operation : Operation β) :
    (ring.perform operation).2.Bounded depth := by
  have fits := bounded.fits
  constructor
  · exact (ring.depth_perform operation).trans bounded.same
  · cases closed : (ring.perform operation).2.isClosed with
    | true =>
      rw [queued_of_closed closed]
      exact Nat.zero_le depth
    | false =>
      -- what is accepted found room, and everything else only takes out
      have balance := congrArg List.length (ring.balance_perform operation closed)
      rw [List.length_append, List.length_append] at balance
      rcases ring.acceptedIn_cases operation with none | ⟨room, payload, taken⟩
      · rw [none, List.length_nil] at balance
        omega
      · rw [taken, List.length_singleton] at balance
        rw [bounded.same] at room
        omega

theorem isClosed_answersTo (ring : Ring β) (operations : List (Operation β)) :
    (answersTo perform ring operations).2.isClosed = true ↔
      ring.isClosed = true ∨ .dropConsumer ∈ operations := by
  induction operations generalizing ring with
  | nil => simp [answersTo]
  | cons operation rest ih =>
    change (answersTo perform (ring.perform operation).2 rest).2.isClosed = true ↔ _
    rw [ih, isClosed_perform, List.mem_cons, or_assoc, @eq_comm _ operation]

/-- As long as the consumer is there nothing is lost and nothing overtakes: what was queued and what
is accepted in a run is what is given out and what is queued at its end. -/
theorem balance_answersTo (ring : Ring β) (operations : List (Operation β))
    (present : (answersTo perform ring operations).2.isClosed = false) :
    ring.queued ++ (transcript perform ring operations).flatMap acceptedIn =
      (transcript perform ring operations).flatMap receivedIn ++
        (answersTo perform ring operations).2.queued := by
  induction operations generalizing ring with
  | nil => simp [transcript, answersTo]
  | cons operation rest ih =>
    -- a consumer that is there at the end was there all along
    have later : (answersTo perform (ring.perform operation).2 rest).2.isClosed = false := present
    have here : (ring.perform operation).2.isClosed = false := by
      rw [← Bool.not_eq_true, isClosed_answersTo, not_or, Bool.not_eq_true] at later
      exact later.1
    rw [transcript_cons, List.flatMap_cons, List.flatMap_cons]
    calc
      _ = (ring.queued ++ acceptedIn (operation, (ring.perform operation).1)) ++
          (transcript perform (ring.perform operation).2 rest).flatMap acceptedIn := by
        rw [List.append_assoc]
      _ = receivedIn (operation, (ring.perform operation).1) ++
          ((ring.perform operation).2.queued ++
            (transcript perform (ring.perform operation).2 rest).flatMap acceptedIn) := by
        rw [ring.balance_perform operation here, List.append_assoc]
      _ = _ := by
        rw [ih _ later, List.append_assoc]
        rfl

theorem accepted_of_depth_zero (ring : Ring β) (flat : ring.depth = 0)
    (operations : List (Operation β)) :
    (transcript perform ring operations).flatMap acceptedIn = [] := by
  induction operations generalizing ring with
  | nil => rfl
  | cons operation rest ih =>
    rw [transcript_cons, List.flatMap_cons, ih _ ((ring.depth_perform operation).trans flat)]
    rcases ring.acceptedIn_cases operation with none | ⟨room, -⟩
    · rw [none, List.append_nil]
    · rw [flat] at room
      exact absurd room (Nat.not_lt_zero _)

theorem countP_cons_toNat (counts : Operation β → Bool) (operation : Operation β)
    (rest : List (Operation β)) :
    (operation :: rest).countP counts = rest.countP counts + (counts operation).toNat := by
  cases counted : counts operation with
  | true => exact List.countP_cons_of_pos counted
  | false => exact List.countP_cons_of_neg (Bool.not_eq_true _ ▸ counted)

theorem producers_answersTo (ring : Ring β) (operations : List (Operation β))
    (held : ∀ earlier, earlier <+: operations →
      earlier.countP Operation.isDrop ≤ earlier.countP Operation.isClone + ring.producers) :
    (answersTo perform ring operations).2.producers + operations.countP Operation.isDrop =
      operations.countP Operation.isClone + ring.producers := by
  induction operations generalizing ring with
  | nil => simp [answersTo]
  | cons operation rest ih =>
    have stepped := ring.producers_perform operation
    have first := held [operation] ⟨rest, rfl⟩
    rw [countP_cons_toNat, countP_cons_toNat, List.countP_nil, List.countP_nil] at first
    have kept : ∀ earlier, earlier <+: rest → earlier.countP Operation.isDrop ≤
        earlier.countP Operation.isClone + (ring.perform operation).2.producers := by
      intro earlier later
      have before := held (operation :: earlier) (List.cons_prefix_cons.mpr ⟨rfl, later⟩)
      rw [countP_cons_toNat, countP_cons_toNat] at before
      omega
    have later := ih (ring.perform operation).2 kept
    change (answersTo perform (ring.perform operation).2 rest).2.producers + _ = _
    rw [countP_cons_toNat, countP_cons_toNat]
    omega

theorem tryReceive_until_none (ring : Ring β) :
    answersTo perform ring (List.replicate (ring.queued.length + 1) .tryReceive) =
      (ring.queued.map (fun payload => .taken (some payload)) ++ [.taken none], ring.drain.2) := by
  obtain ⟨depth, producers, consumer⟩ := ring
  cases consumer with
  | gone fill => rfl
  | present queued =>
    change answersTo perform _ (List.replicate (queued.length + 1) _) =
      (queued.map _ ++ _, ⟨depth, producers, .present []⟩)
    induction queued with
    | nil => rfl
    | cons payload rest ih =>
      have taken : (Ring.mk depth producers (.present (payload :: rest))).perform .tryReceive =
          (.taken (some payload), ⟨depth, producers, .present rest⟩) := rfl
      rw [List.length_cons, List.replicate_succ, answersTo_cons, taken, ih]
      rfl

theorem receive_answer (ring : Ring β) :
    ring.receive.1 =
      match ring.queued with
      | payload :: _ => .payload payload
      | [] => if ring.producers = 0 then .ended else .waiting := by
  obtain ⟨depth, producers, consumer⟩ := ring
  cases consumer with
  | gone fill => rfl
  | present queued =>
    cases queued with
    | nil => rfl
    | cons payload rest => rfl

theorem Bounded.isFull_iff {depth : Nat} (bounded : ring.Bounded depth)
    (present : ring.isClosed = false) : ring.isFull = true ↔ ring.queued.length = depth := by
  rw [isFull, decide_eq_true_iff, fill_of_present present, bounded.same]
  exact ⟨fun full => Nat.le_antisymm bounded.fits full, fun full => Nat.le_of_eq full.symm⟩

theorem queued_drain (ring : Ring β) : ring.drain.1 = ring.queued ∧ ring.drain.2.queued = [] := by
  unfold drain queued
  split
  · exact ⟨rfl, rfl⟩
  next gone => simp [gone]

theorem bounded_answersTo (depth : Nat) (operations : List (Operation β)) :
    (answersTo perform (ofDepth depth) operations).2.Bounded depth :=
  answersTo_keeps (fun _ operation bounded => bounded.perform operation) ⟨rfl, Nat.zero_le depth⟩
    operations

/-- The law of a bounded queue, for a ring of this depth that these operations and their answers led
to. -/
structure BoundedFifo (depth : Nat) (operations : List (Operation β))
    (history : List (Operation β × Answer β)) (ring : Ring β) : Prop where
  closed : ring.isClosed = true ↔ .dropConsumer ∈ operations
  order : .dropConsumer ∉ operations →
    history.flatMap acceptedIn = history.flatMap receivedIn ++ ring.queued
  fits : ring.queued.length ≤ depth
  flat : depth = 0 → history.flatMap acceptedIn = []
  full : .dropConsumer ∉ operations → (ring.isFull = true ↔ ring.queued.length = depth)
  /-- a refusal hands the payload back and changes nothing -/
  delivers : ∀ payload, ring.deliver payload =
    if ring.isClosed then (.closed payload, ring)
    else if ring.isFull then (.full payload, ring) else (.accepted, ring.push payload)
  drains : ring.drain.1 = ring.queued
  drained : ring.drain.2.queued = []
  /-- trying until nothing comes gives what draining gives -/
  tries : answersTo perform ring (List.replicate (ring.queued.length + 1) .tryReceive) =
    (ring.drain.1.map (fun payload => .taken (some payload)) ++ [.taken none], ring.drain.2)
  /-- so does waiting to a deadline with nobody delivering -/
  waits : ring.receiveInTime = ring.tryReceive
  /-- a producer that leaves takes nothing along -/
  outlasts : ring.dropProducer.queued = ring.queued
  /-- the stream ends with the last payload once every producer has left -/
  receives : ring.receive.1 =
    match ring.queued with
    | payload :: _ => .payload payload
    | [] => if ring.producers = 0 then .ended else .waiting
  producers : (∀ earlier, earlier <+: operations →
      earlier.countP Operation.isDrop ≤ earlier.countP Operation.isClone + 1) →
    ring.producers + operations.countP Operation.isDrop =
      operations.countP Operation.isClone + 1

theorem ring_is_bounded_fifo (depth : Nat) (operations : List (Operation β)) :
    BoundedFifo depth operations (transcript perform (ofDepth depth) operations)
      (answersTo perform (ofDepth depth) operations).2 := by
  let ring := (answersTo perform (ofDepth depth) operations).2
  have closed : ring.isClosed = true ↔ .dropConsumer ∈ operations := by
    rw [isClosed_answersTo]
    exact or_iff_right Bool.false_ne_true
  have present (stays : .dropConsumer ∉ operations) : ring.isClosed = false :=
    Bool.eq_false_iff.mpr fun gone => stays (closed.mp gone)
  have bounded : ring.Bounded depth := bounded_answersTo depth operations
  constructor
  case closed => exact closed
  case order =>
    intro stays
    exact balance_answersTo (ofDepth depth) operations (present stays)
  case fits => exact bounded.fits
  case flat =>
    intro flat
    exact accepted_of_depth_zero (ofDepth depth) flat operations
  case full =>
    intro stays
    exact bounded.isFull_iff (present stays)
  case delivers => exact ring.deliver_eq
  case drains => exact ring.queued_drain.1
  case drained => exact ring.queued_drain.2
  case tries =>
    rw [ring.queued_drain.1]
    exact ring.tryReceive_until_none
  case waits => exact ring.receiveInTime_eq
  case outlasts => rfl
  case receives => exact ring.receive_answer
  case producers => exact producers_answersTo (ofDepth depth) operations

theorem filled_ring_outlasts_producers :
    let operations : List (Operation Nat) := [.addProducer, .deliver 1, .deliver 2, .deliver 3,
      .tryReceive, .dropProducer, .dropProducer]
    let ring := (answersTo perform (ofDepth 2) operations).2
    [1, 2] = [1] ++ ring.queued ∧ ring.producers + 2 = 1 + 1 ∧ ring.receive.1 = .payload 2 ∧
      ring.receive.2.receive.1 = .ended := by
  intro operations ring
  have law := ring_is_bounded_fifo 2 operations
  have held : ∀ earlier, earlier <+: operations →
      earlier.countP Operation.isDrop ≤ earlier.countP Operation.isClone + 1 := by
    intro earlier first
    rw [← List.mem_inits] at first
    revert earlier
    decide
  exact ⟨law.order (by decide), law.producers held, law.receives, rfl⟩

end RxSteering.Ring
