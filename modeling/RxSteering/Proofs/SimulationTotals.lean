import RxSteering.Proofs.SimulationReports
import RxSteering.SimulationCommand

/-!
The accounts of the simulation. When everybody has stopped no frame is half counted and no buffer
is on its way to the receiver that took it out, so the totals balance. A frame whose queue is bound
is lost to nothing but a ring that is full or closed, for the sockets stay registered. What is said
of every schedule is said of a performance, which is a run of one.
-/
namespace RxSteering
namespace Simulation

variable {simulation : Simulation}

def rejects (_ : Bool) (host : Host Buffer) (poller : Poller) : Nat :=
  match poller.phase with
  | .decided (.redirect handle) =>
    ((host.socket? 0 handle).any fun id => (host.ring id).isFull || (host.ring id).isClosed).toNat
  | _ => 0

theorem Wired.rejects_eq (wired : simulation.Wired) {poller : Poller}
    (member : poller ∈ simulation.pollers) :
    rejects simulation.exit simulation.host poller =
      settles (.dropped .targetUnavailable) simulation.exit simulation.host poller := by
  have aimed := wired.aimed poller member
  obtain ⟨queue, offset, phase⟩ := poller
  cases phase with
  | ready => rfl
  | counted => rfl
  | decided decision =>
    cases decision with
    | redirect handle =>
      obtain ⟨id, leads⟩ := Host.isRegistered_iff.mp (wired.live handle (aimed handle rfl))
      have offered : simulation.host.offer 0 handle ⟨offset, frameLength⟩ = _ :=
        simulation.host.offerTo_eq handle (simulation.host.socket? 0 handle) _
      change ((simulation.host.socket? 0 handle).any _).toNat =
        (decide ((simulation.host.offer 0 handle ⟨offset, frameLength⟩).1.tally = _)).toNat
      rw [offered, leads, Option.filter_some, Option.any_some, Ring.hasRoom]
      cases (simulation.host.ring id).isFull with
      | true =>
        cases (simulation.host.ring id).isClosed with
        | true => rfl
        | false => rfl
      | false =>
        cases (simulation.host.ring id).isClosed with
        | true => rfl
        | false => rfl
    | drop => rfl
    | pass => rfl
  | settled disposition => rfl
  | stopped => rfl

theorem Wired.total_rejects (wired : simulation.Wired) (schedule : List Event) :
    simulation.total rejects schedule =
      simulation.total (settles (.dropped .targetUnavailable)) schedule := by
  induction schedule generalizing simulation with
  | nil => rfl
  | cons event rest ih =>
    rw [total, total, ih (wired.step event)]
    cases mine : simulation.polled? event with
    | none => rfl
    | some poller =>
      obtain ⟨i, here, -⟩ := step_of_polled mine
      simp only [Option.map_some, Option.getD_some]
      rw [wired.rejects_eq (List.mem_of_getElem? here)]

theorem stopped_of_everybody (everybody : simulation.everybodyStopped = true) :
    (∀ poller ∈ simulation.pollers, poller.phase = .stopped) ∧ simulation.holding = 0 := by
  simp only [everybodyStopped, Bool.and_eq_true, List.all_eq_true, decide_eq_true_eq] at everybody
  obtain ⟨⟨pollers, -⟩, receivers⟩ := everybody
  refine ⟨pollers, List.countP_eq_zero.mpr fun receiver member => ?_⟩
  rw [receivers receiver member]
  exact of_decide_eq_false rfl

end Simulation

/-- The laws of the totals of a run, in which so many frames met a ring that was full or closed. -/
structure Totals.Balance (totals : Totals) (miss : MissPolicy) (rejected : Nat) : Prop where
  frames : totals.counters.frames.toNat = totals.counters.redirected.toNat +
    totals.counters.dropped.toNat + totals.counters.passed.toNat
  received : totals.received ≤ totals.counters.redirected
  bytes : totals.bytes = 1500 * totals.received
  bytesExact : 1500 * totals.received.toNat < 2 ^ 64 →
    totals.bytes.toNat = 1500 * totals.received.toNat
  unavailable : totals.counters.droppedUnavailable.toNat = rejected
  drop : miss = .drop → totals.counters.passed = 0
  pass : miss = .pass → totals.counters.dropped.toNat = rejected

namespace Simulation

variable {start : Simulation} {queues sockets : Nat} {miss : MissPolicy}

theorem Started.totals_balance (started : start.Started queues sockets miss) (some : 0 < sockets)
    {schedule : List Event} (everybody : (start.run schedule).everybodyStopped = true)
    (few : start.total begins schedule < 2 ^ 64) :
    (start.run schedule).totals.Balance miss (start.total rejects schedule) := by
  obtain ⟨stopped, empty⟩ := stopped_of_everybody everybody
  have resting : (start.run schedule).Resting := fun poller member => .inr (stopped poller member)
  have accounted := started.accounted.run schedule
  obtain ⟨received, flow⟩ := started.flow.run schedule
  have begun := start.begun_eq schedule
  rw [resting.halfCounted, started.resting.halfCounted] at begun
  have settled (tally : Tally) :
      (start.outcomes schedule).count tally = start.total (settles tally) schedule := by
    have balance := start.settled_eq tally schedule
    rw [resting.settled, started.resting.settled] at balance
    omega
  have counters :
      (start.run schedule).totals.counters = .ofTallies (start.outcomes schedule) 0 := by
    have counts := accounted.counters
    rwa [resting.halfCounted, List.nil_append] at counts
  have whole : (start.outcomes schedule).length + 0 < 2 ^ 64 := by omega
  have hold := Counters.hold_ofTallies whole
  have all := length_tallies (start.outcomes schedule)
  have amount := flow.amount
  have bytes := flow.bytes
  rw [empty, Nat.zero_add, ← settled] at amount
  rw [empty, Nat.add_zero, UInt64.ofNat_mul, ← flow.counted] at bytes
  have never : (start.outcomes schedule).count miss.never = 0 :=
    List.count_eq_zero.mpr accounted.allowed
  have rejected : (start.outcomes schedule).count (.dropped .targetUnavailable) =
      start.total rejects schedule := by
    rw [settled, (started.wired some).total_rejects]
  constructor
  case frames =>
    rw [counters, hold.frames, hold.redirected, hold.dropped, hold.passed]
    omega
  case received =>
    have arrived : (start.run schedule).totals.received.toNat = received := by
      change (start.run schedule).received.toNat = received
      rw [flow.counted]
      exact UInt64.toNat_ofNat_of_lt (by rw [UInt64.size]; omega)
    rw [UInt64.le_iff_toNat_le, arrived, counters, hold.redirected]
    omega
  case bytes => exact bytes
  case bytesExact =>
    intro fits
    change (start.run schedule).totals.bytes = 1500 * (start.run schedule).totals.received at bytes
    rw [bytes, UInt64.toNat_mul]
    exact Nat.mod_eq_of_lt fits
  case unavailable => rw [counters, hold.droppedUnavailable, rejected]
  case drop =>
    rintro rfl
    rw [counters]
    exact congrArg UInt64.ofNat never
  case pass =>
    rintro rfl
    change (start.outcomes schedule).count (.dropped .unmappedQueue) = 0 at never
    rw [counters, hold.dropped, never, Nat.zero_add, rejected]

structure InOrder (start : Simulation) (options : SimulationOptions) (miss : MissPolicy)
    (schedule : List Event) : Prop where
  /-- a call of the rebinder comes nearer to its end with each turn, and ends well -/
  calls : ∀ call, (start.run schedule).rebinder.phase = .calling call →
    (∃ next, ((start.run schedule).host.step 0 call).progress = .ongoing next ∧
      next.turnsLeft < call.turnsLeft) ∨
    ∃ outcome, ((start.run schedule).host.step 0 call).progress = .finished outcome ∧
      outcome.isDone = true
  /-- until the first call the queues but the last are bound, going round the sockets -/
  firstBindings : (∀ earlier, earlier <+: schedule →
      ∀ call, (start.run earlier).rebinder.phase ≠ .calling call) →
    ∀ queue : QueueId, (start.run schedule).host.table.lookup queue =
      if queue.index.toNat < options.queues.toNat - 1 then
        some ⟨.ofNat (queue.index.toNat % max options.sockets.toNat 1)⟩
      else none
  live : ∀ queue handle, (start.run schedule).host.table.lookup queue = some handle →
    (start.run schedule).host.isRegistered 0 handle = true
  /-- a report takes the differences to the account before, of which no counter is ahead -/
  reports : start.total begins schedule < 2 ^ 64 →
    ∀ report, .report report ∈ (start.run schedule).lines → ∃ earlier now,
      earlier <+: schedule ∧ (start.run earlier).clerk = .reading now.account ∧
      report.since = now.since (start.run earlier).last ∧ (start.run earlier).last.AtMost now
  totals : start.total begins schedule < 2 ^ 64 →
    ∀ totals, .totals totals ∈ (start.run schedule).lines →
      totals.Balance miss (start.total rejects schedule)

theorem Started.totals (started : start.Started queues sockets miss) (some : 0 < sockets)
    {schedule : List Event} (few : start.total begins schedule < 2 ^ 64) {totals : Totals}
    (member : .totals totals ∈ (start.run schedule).lines) :
    totals.Balance miss (start.total rejects schedule) := by
  obtain ⟨earlier, first, writes⟩ := exists_of_mem_lines started.lines member
  have less := start.total_le_of_prefix begins first
  unfold writes? at writes
  split at writes
  next =>
    obtain ⟨now, -, same⟩ := Option.map_eq_some_iff.mp writes
    cases same
  next =>
    split at writes
    next everybody =>
      cases writes
      obtain ⟨later, rfl⟩ := first
      -- nobody rejects a frame after everybody has stopped
      have still : (start.run earlier).total rejects later = 0 := by
        apply total_of_stopped _ (stopped_of_everybody everybody).1
        intro exit host poller stands
        rw [rejects, stands]
      rw [total_append, still]
      exact started.totals_balance some everybody (by omega)
    next => cases writes
  next => cases writes

variable {m : Type → Type} [Monad m] [LawfulMonad m]

theorem playSeconds_eq_run (ending : Event) (seconds : Nat) (simulation : Simulation) :
    ∃ schedule, playSeconds (m := m) (fun simulation part => pure (simulation.playPart part)) ending
      seconds simulation = pure (simulation.run schedule) := by
  induction seconds generalizing simulation with
  | zero => exact ⟨simulation.schedule (.closing ending), rfl⟩
  | succ seconds ih =>
    obtain ⟨schedule, rest⟩ := ih (simulation.playPart .second)
    refine ⟨simulation.schedule .second ++ schedule, ?_⟩
    rw [playSeconds, pure_bind, rest, playPart, run_append]

theorem performance_eq_run (ending : Event) (seconds : Nat) (simulation : Simulation) :
    ∃ schedule, performance (m := m) (fun simulation part => pure (simulation.playPart part)) ending
      seconds simulation = pure (simulation.run schedule) := by
  obtain ⟨schedule, rest⟩ :=
    playSeconds_eq_run (m := m) ending seconds (simulation.playPart .opening)
  refine ⟨simulation.schedule .opening ++ schedule, ?_⟩
  rw [performance, pure_bind, rest, playPart, run_append]

end Simulation

/-- What the command writes are the lines of one run. -/
theorem SimulationCommand.lines_of_perform {options : SimulationOptions}
    {lines : List SimulationLine} (performed : perform options = .ok lines) :
    ∃ start schedule, Simulation.start options = .ok start ∧
      lines = (start.run schedule).lines := by
  obtain ⟨start, starts, performed⟩ := ok_of_bind performed
  obtain ⟨last, played, written⟩ := ok_of_bind performed
  cases written
  obtain ⟨schedule, runs⟩ := Simulation.performance_eq_run (m := Except Error)
    (if options.seconds = 0 then .timeUp else .interrupt) (min options.seconds.toNat 1) start
  cases runs.symm.trans played
  exact ⟨start, schedule, starts, rfl⟩

end RxSteering
