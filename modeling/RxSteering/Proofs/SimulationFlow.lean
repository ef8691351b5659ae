import RxSteering.Proofs.RingFlow
import RxSteering.Proofs.SimulationAccount

/-!
The way of the buffers through the simulation. All that a receiver counts was taken out of a ring,
and all that is in a ring was put there by a frame that was redirected; every buffer has the length
of a frame, so the bytes add up too. A receiver that leaves may leave buffers behind.
-/
namespace RxSteering

namespace Host

variable {host after : Host Buffer}

def buffers (host : Host Buffer) : List Buffer := host.rings.flatMap Ring.queued

theorem buffers_of_consumers (same : after.consumers = host.consumers) :
    after.buffers = host.buffers := by
  have seen (host : Host Buffer) : host.buffers =
      host.consumers.flatMap fun consumer => Ring.queued ⟨0, 0, consumer⟩ := by
    rw [consumers, List.flatMap_map]
    rfl
  rw [seen, seen, same]

theorem buffers_modifyRing (host : Host Buffer) (id : RingId) (change : Ring Buffer → Ring Buffer)
    (inside : id < host.rings.length) :
    ((host.ring id).queued ++ (host.modifyRing id change).buffers).Perm
      ((change (host.ring id)).queued ++ host.buffers) := by
  have here : host.rings[id]? = some (host.ring id) := by
    rw [ring, List.getD_eq_getElem?_getD, List.getElem?_eq_getElem inside, Option.getD_some]
  rw [buffers, modifyRing, modify_rings]
  exact perm_flatMap_set host.rings Ring.queued here (change (host.ring id))

theorem buffers_take (host : Host Buffer) (target : Option RingId) (payload : Buffer) :
    ((host.take (target.filter fun id => (host.ring id).hasRoom) payload).buffers).Perm
      (List.replicate (target.filter fun id => (host.ring id).hasRoom).isSome.toNat payload ++
        host.buffers) := by
  cases taker : target.filter fun id => (host.ring id).hasRoom with
  | none => exact .refl _
  | some id =>
    have room : (host.ring id).hasRoom = true := (Option.filter_eq_some_iff.mp taker).2
    have exchange := host.buffers_modifyRing id (fun ring => ring.push payload)
      (inside_of_present (Ring.not_isClosed_of_hasRoom room))
    rw [Ring.queued_push, List.append_assoc] at exchange
    exact (List.perm_append_left_iff _).mp exchange

end Host

namespace Simulation

variable {simulation : Simulation}

theorem buffers_poll (exit : Bool) (host : Host Buffer) (poller : Poller) :
    ((poll exit host poller).1.buffers).Perm
      (List.replicate (settles .redirected exit host poller) ⟨poller.offset, frameLength⟩ ++
        host.buffers) := by
  obtain ⟨queue, offset, phase⟩ := poller
  cases phase with
  | ready =>
    cases exit with
    | true => exact .refl _
    | false => exact .refl _
  | counted => exact .refl _
  | decided decision =>
    cases decision with
    | redirect handle =>
      let payload : Buffer := ⟨offset, frameLength⟩
      have offered : host.offer 0 handle payload = _ :=
        host.offerTo_eq handle (host.socket? 0 handle) payload
      have settled : settles .redirected exit host ⟨queue, offset, .decided (.redirect handle)⟩ =
          ((host.socket? 0 handle).filter fun id => (host.ring id).hasRoom).isSome.toNat := by
        change (decide ((host.offer 0 handle payload).1.tally = .redirected)).toNat = _
        rw [offered]
        cases (host.socket? 0 handle).filter fun id => (host.ring id).hasRoom with
        | none => rfl
        | some id => rfl
      rw [settled]
      change ((host.offer 0 handle payload).2.buffers).Perm _
      rw [offered]
      exact host.buffers_take (host.socket? 0 handle) payload
    | drop => exact .refl _
    | pass => exact .refl _
  | settled disposition => exact .refl _
  | stopped => exact .refl _

theorem receive_cases (exit : Bool) (host : Host Buffer) (receiver : Receiver) :
    (receiver.phase = .waiting ∧ ∃ buffer,
      (receive exit host receiver).2 = { receiver with
        bytes := receiver.bytes + buffer.length.toUInt64, phase := .holding } ∧
      host.buffers.Perm (buffer :: (receive exit host receiver).1.buffers)) ∨
    (receiver.phase = .holding ∧
      receive exit host receiver = (host, { receiver with phase := .ready })) ∨
    (receiver.phase ≠ .holding ∧ (receive exit host receiver).2.phase ≠ .holding ∧
      (receive exit host receiver).2.bytes = receiver.bytes ∧
      ∃ lost, host.buffers.Perm (lost ++ (receive exit host receiver).1.buffers)) := by
  have readyApart : ReceiverPhase.ready ≠ .holding := by decide
  have waitingApart : ReceiverPhase.waiting ≠ .holding := by decide
  have stoppedApart : ReceiverPhase.stopped ≠ .holding := by decide
  obtain ⟨id, bytes, phase⟩ := receiver
  cases phase with
  | ready =>
    right; right
    cases exit with
    | false => exact ⟨readyApart, waitingApart, rfl, [], .refl _⟩
    | true =>
      refine ⟨readyApart, stoppedApart, rfl, ?_⟩
      rcases Nat.lt_or_ge id host.rings.length with inside | outside
      · have exchange := host.buffers_modifyRing id Ring.dropConsumer inside
        exact ⟨_, exchange.symm⟩
      · have same : host.modifyRing id Ring.dropConsumer = host := by
          rw [Host.modifyRing, List.modify_eq_self outside]
        refine ⟨[], ?_⟩
        change host.buffers.Perm (host.modifyRing id Ring.dropConsumer).buffers
        rw [same]
  | waiting =>
    have gives := (host.ring id).gives_tryReceive
    rcases taken : (host.ring id).tryReceive with ⟨_ | buffer, rest⟩
    · have turn : receive exit host ⟨id, bytes, .waiting⟩ = (host, ⟨id, bytes, .ready⟩) := by
        simp only [receive, taken]
      rw [turn]
      exact .inr (.inr ⟨waitingApart, readyApart, rfl, [], .refl _⟩)
    · have turn : receive exit host ⟨id, bytes, .waiting⟩ =
          (host.modifyRing id fun _ => rest,
            ⟨id, bytes + buffer.length.toUInt64, .holding⟩) := by
        simp only [receive, taken]
      rw [taken] at gives
      have first : (host.ring id).queued = buffer :: rest.queued := gives.balance
      have exchange := host.buffers_modifyRing id (fun _ => rest)
        (Host.inside_of_present (gives.present (List.cons_ne_nil buffer [])))
      rw [first] at exchange
      have moved := List.perm_middle.trans exchange
      rw [turn]
      exact .inl ⟨rfl, buffer, rfl, ((List.perm_append_left_iff _).mp moved).symm⟩
  | holding => exact .inr (.inl ⟨rfl, rfl⟩)
  | stopped => exact .inr (.inr ⟨stoppedApart, stoppedApart, rfl, [], .refl _⟩)

theorem sum_set (words : List UInt64) {i : Nat} {word : UInt64} (here : words[i]? = some word)
    (more : UInt64) :
    (words.set i (word + more)).foldr (· + ·) 0 = words.foldr (· + ·) 0 + more := by
  induction words generalizing i with
  | nil => cases here
  | cons first rest ih =>
    cases i with
    | zero =>
      cases here
      simp only [List.set_cons_zero, List.foldr_cons]
      rw [UInt64.add_assoc, UInt64.add_comm more, ← UInt64.add_assoc]
    | succ i =>
      simp only [List.set_cons_succ, List.foldr_cons]
      rw [ih here, UInt64.add_assoc]

def holding (simulation : Simulation) : Nat :=
  simulation.receivers.countP fun receiver => receiver.phase = .holding

/-- Of the buffers that were accepted so many were counted by the receivers; the bytes are those of
the ones that were taken out. -/
structure Flow (simulation : Simulation) (accepted received : Nat) : Prop where
  amount : received + simulation.holding + simulation.host.buffers.length ≤ accepted
  counted : simulation.received = .ofNat received
  lengths : ∀ buffer ∈ simulation.host.buffers, buffer.length = frameLength
  bytes : (simulation.receivers.map Receiver.bytes).foldr (· + ·) 0 =
    .ofNat (frameLength.toNat * (received + simulation.holding))

namespace Flow

variable {accepted received : Nat}

theorem of_same (flow : simulation.Flow accepted received) {after : Simulation}
    (buffers : after.host.buffers = simulation.host.buffers)
    (receivers : after.receivers = simulation.receivers)
    (counted : after.received = simulation.received) : after.Flow accepted received where
  amount := by
    rw [holding, receivers, buffers]
    exact flow.amount
  counted := counted.trans flow.counted
  lengths := by
    rw [buffers]
    exact flow.lengths
  bytes := by
    rw [holding, receivers]
    exact flow.bytes

theorem replace (flow : simulation.Flow accepted received) {i : Nat} {receiver next : Receiver}
    (here : simulation.receivers[i]? = some receiver) {after : Simulation}
    (replaced : after.receivers = simulation.receivers.set i next) {more : Nat}
    (bytes : next.bytes = receiver.bytes + .ofNat (frameLength.toNat * more)) {lost : List Buffer}
    (buffers : simulation.host.buffers.Perm (lost ++ after.host.buffers))
    (takes : more ≤ lost.length)
    {now : Nat} (counted : after.received = .ofNat now)
    (moves : now + (decide (next.phase = .holding)).toNat =
      received + (decide (receiver.phase = .holding)).toNat + more) :
    after.Flow accepted now := by
  have exchange := countP_set_exchange simulation.receivers
    (fun receiver => decide (receiver.phase = .holding)) here next
  have size := buffers.length_eq
  have held : after.holding = (simulation.receivers.set i next).countP
      fun receiver => decide (receiver.phase = .holding) := by rw [holding, replaced]
  have before : simulation.holding = simulation.receivers.countP
      fun receiver => decide (receiver.phase = .holding) := rfl
  rw [List.length_append] at size
  refine ⟨?_, counted, ?_, ?_⟩
  · have amount := flow.amount
    omega
  · intro buffer member
    exact flow.lengths buffer (buffers.mem_iff.mpr (List.mem_append_right lost member))
  · have word : (simulation.receivers.map Receiver.bytes)[i]? = some receiver.bytes := by
      rw [List.getElem?_map, here]
      rfl
    have all : now + after.holding = received + simulation.holding + more := by omega
    rw [replaced, List.map_set, bytes, sum_set _ word, flow.bytes, ← UInt64.ofNat_add,
      ← Nat.mul_add, all]

theorem receiverTurn (flow : simulation.Flow accepted received) (i : Nat) :
    ∃ received, (simulation.receiverTurn i).Flow accepted received := by
  cases here : simulation.receivers[i]? with
  | none =>
    rw [Simulation.receiverTurn, here]
    exact ⟨received, flow⟩
  | some receiver =>
    rw [Simulation.receiverTurn, here]
    dsimp only
    rcases receive_cases simulation.exit simulation.host receiver with
      ⟨waits, buffer, after, buffers⟩ | ⟨holds, after⟩ | ⟨apart, still, bytes, lost, buffers⟩
    · have length : buffer.length = frameLength :=
        flow.lengths buffer (buffers.mem_iff.mpr (List.mem_cons_self ..))
      have bytes : (receive simulation.exit simulation.host receiver).2.bytes =
          receiver.bytes + .ofNat (frameLength.toNat * 1) := by
        rw [after, length]
        rfl
      have moves : received +
            (decide ((receive simulation.exit simulation.host receiver).2.phase = .holding)).toNat =
          received + (decide (receiver.phase = .holding)).toNat + 1 := by
        rw [after, waits]
        rfl
      have taken : simulation.host.buffers.Perm
          ([buffer] ++ (receive simulation.exit simulation.host receiver).1.buffers) := buffers
      have one : 1 ≤ [buffer].length := Nat.le_refl 1
      rw [if_neg (by simp [waits])]
      exact ⟨received, flow.replace here rfl bytes taken one flow.counted moves⟩
    · have bytes : (receive simulation.exit simulation.host receiver).2.bytes =
          receiver.bytes + .ofNat (frameLength.toNat * 0) := by
        rw [after]
        exact (UInt64.add_zero _).symm
      have moves : received + 1 +
            (decide ((receive simulation.exit simulation.host receiver).2.phase = .holding)).toNat =
          received + (decide (receiver.phase = .holding)).toNat + 0 := by
        rw [after, holds]
        rfl
      have counted : simulation.received + 1 = .ofNat (received + 1) := by
        rw [flow.counted, UInt64.ofNat_add]
        rfl
      have buffers : simulation.host.buffers.Perm
          ([] ++ (receive simulation.exit simulation.host receiver).1.buffers) := by
        rw [after]
        exact .refl _
      rw [if_pos holds]
      exact ⟨received + 1, flow.replace here rfl bytes buffers (Nat.zero_le _) counted moves⟩
    · have bytes : (receive simulation.exit simulation.host receiver).2.bytes =
          receiver.bytes + .ofNat (frameLength.toNat * 0) :=
        bytes.trans (UInt64.add_zero _).symm
      have moves : received +
            (decide ((receive simulation.exit simulation.host receiver).2.phase = .holding)).toNat =
          received + (decide (receiver.phase = .holding)).toNat + 0 := by
        simp [apart, still]
      rw [if_neg apart]
      exact ⟨received, flow.replace here rfl bytes buffers (Nat.zero_le _) flow.counted moves⟩

theorem pollerTurn (flow : simulation.Flow accepted received) (i : Nat) :
    (simulation.pollerTurn i).Flow (accepted + ((simulation.polled? (.poller i)).map
      (settles .redirected simulation.exit simulation.host)).getD 0) received := by
  rw [polled?]
  cases here : simulation.pollers[i]? with
  | none =>
    rw [pollerTurn_of_none here]
    exact flow
  | some poller =>
    rw [pollerTurn_of_some here]
    have buffers := buffers_poll simulation.exit simulation.host poller
    have size := buffers.length_eq
    rw [List.length_append, List.length_replicate] at size
    refine ⟨?_, flow.counted, ?_, flow.bytes⟩
    · have amount := flow.amount
      change received + simulation.holding +
        (poll simulation.exit simulation.host poller).1.buffers.length ≤
          accepted + settles .redirected simulation.exit simulation.host poller
      omega
    · intro buffer member
      rcases List.mem_append.mp (buffers.mem_iff.mp member) with new | old
      · rw [List.eq_of_mem_replicate new]
      · exact flow.lengths buffer old

theorem step (flow : simulation.Flow accepted received) (event : Event) :
    ∃ received, (simulation.step event).Flow (accepted + ((simulation.polled? event).map
      (settles .redirected simulation.exit simulation.host)).getD 0) received := by
  cases event with
  | poller i => exact ⟨received, flow.pollerTurn i⟩
  | receiver i => exact flow.receiverTurn i
  | rebinder =>
    refine ⟨received, ?_⟩
    have moved := simulation.moved_step .rebinder
    generalize simulation.step .rebinder = after at moved ⊢
    cases moved with
    | @called call rebinder calls goes =>
      exact flow.of_same
        (Host.buffers_of_consumers (Host.consumers_step 0 simulation.host call)) rfl rfl
    | asked asks => exact flow.of_same rfl rfl rfl
  | clerk =>
    refine ⟨received, ?_⟩
    have moved := simulation.moved_step .clerk
    generalize simulation.step .clerk = after at moved ⊢
    cases moved with
    | wrote clerk last lines exit => exact flow.of_same rfl rfl rfl
  | interrupt => exact ⟨received, flow.of_same rfl rfl rfl⟩
  | timeUp => exact ⟨received, flow.of_same rfl rfl rfl⟩

theorem run (flow : simulation.Flow accepted received) (schedule : List Event) :
    ∃ received, (simulation.run schedule).Flow
      (accepted + simulation.total (settles .redirected) schedule) received := by
  induction schedule generalizing simulation accepted received with
  | nil => exact ⟨received, flow⟩
  | cons event rest ih =>
    obtain ⟨then', next⟩ := flow.step event
    obtain ⟨last, later⟩ := ih next
    rw [total, ← Nat.add_assoc]
    exact ⟨last, later⟩

end Flow

end Simulation
end RxSteering
