import Mathlib.Data.List.Induction
import RxSteering.Proofs.Account
import RxSteering.Simulation

/-!
The bindings of the simulation, whatever turns are taken. Its sockets stay registered, a queue is
only ever bound to one of them, and every call that the rebinder makes comes to a good end.
-/
namespace RxSteering

/-- A call of the rebinder at one of the points that it can reach: its queue is one of the table's
and its socket one of the simulation's. -/
def Call.Fits (size : Nat) (handles : List SocketHandle) : Call → Prop
  | asked (.bind queue handle) => queue.index.toNat < size ∧ handle ∈ handles
  | publish queue handle => queue.index.toNat < size ∧ handle ∈ handles
  | confirm queue handle _ => queue.index.toNat < size ∧ handle ∈ handles
  | asked (.unbind queue) => queue.index.toNat < size
  | _ => False

def Call.turnsLeft : Call → Nat
  | asked (.bind ..) => 3
  | publish .. => 2
  | _ => 1

def Outcome.isDone : Outcome → Bool
  | bound _ => true
  | unbound _ => true
  | _ => false

namespace Host

variable {β : Type}

/-- All that a step of such a call does: it writes a slot at most, for one of the sockets, and goes
on as such a call, nearer to its end, or ends well. -/
theorem step_of_fits {host : Host β} {handles : List SocketHandle}
    (live : ∀ handle ∈ handles, host.isRegistered 0 handle = true)
    (bound : ∀ queue handle, host.table.lookup queue = some handle → handle ∈ handles)
    {call : Call} (fits : call.Fits host.table.slots.length handles) :
    ∃ table, (host.step 0 call).host = host.withTable table ∧
      table.slots.length = host.table.slots.length ∧
      (∀ queue handle, table.lookup queue = some handle → handle ∈ handles) ∧
      ((∃ next, (host.step 0 call).progress = .ongoing next ∧
          next.Fits host.table.slots.length handles ∧ next.turnsLeft < call.turnsLeft) ∨
        ∃ outcome, (host.step 0 call).progress = .finished outcome ∧ outcome.isDone = true) := by
  -- after a write a queue is bound as before, or as was written
  have written (queue : QueueId) (slot : Slot)
      (inside : queue.index.toNat < host.table.slots.length)
      (fits : ∀ handle, slot.binding? = some handle → handle ∈ handles) :
      (host.table.put queue slot).slots.length = host.table.slots.length ∧
        ∀ other handle, (host.table.put queue slot).lookup other = some handle →
          handle ∈ handles := by
    refine ⟨List.length_set .., ?_⟩
    intro other handle after
    rw [Table.lookup_put_inside inside] at after
    split at after
    next => exact fits handle after
    next => exact bound other handle after
  cases call with
  | asked request =>
    cases request with
    | register ring => exact fits.elim
    | unregister handle => exact fits.elim
    | bind queue handle =>
      have goes : host.step 0 (.asked (.bind queue handle)) = _ :=
        beginBind_live (live handle fits.2) queue
      rw [goes]
      exact ⟨host.table, rfl, rfl, bound, .inl ⟨_, rfl, fits, Nat.lt_succ_self 2⟩⟩
    | unbind queue =>
      have ends : host.step 0 (.asked (.unbind queue)) = _ := unbind_inside fits
      rw [ends]
      obtain ⟨size, only⟩ := written queue .empty fits (by simp [Slot.binding?_empty])
      exact ⟨_, rfl, size, only, .inr ⟨_, rfl, rfl⟩⟩
  | publish queue handle =>
    have goes : host.step 0 (.publish queue handle) = _ := publish_inside fits.1 handle
    rw [goes]
    have mine : ∀ other, (Slot.bound handle).binding? = some other → other ∈ handles := by
      intro other same
      rw [Slot.binding?_bound] at same
      cases same
      exact fits.2
    obtain ⟨size, only⟩ := written queue (.bound handle) fits.1 mine
    exact ⟨_, rfl, size, only, .inl ⟨_, rfl, fits, Nat.lt_succ_self 1⟩⟩
  | confirm queue handle previous =>
    have ends : host.step 0 (.confirm queue handle previous) = _ :=
      confirm_live (live handle fits.2) queue previous
    rw [ends]
    exact ⟨host.table, rfl, rfl, bound, .inr ⟨_, rfl, rfl⟩⟩
  | retract queue handle => exact fits.elim
  | scan handle ahead found => exact fits.elim
  | sweep handle owed => exact fits.elim

end Host

namespace Simulation

variable {simulation : Simulation}

theorem pollerTurn_of_none {i : Nat} (none : simulation.pollers[i]? = none) :
    simulation.pollerTurn i = simulation := by
  rw [pollerTurn, none]

theorem pollerTurn_of_some {i : Nat} {poller : Poller}
    (here : simulation.pollers[i]? = some poller) :
    simulation.pollerTurn i = { simulation with
      host := (poll simulation.exit simulation.host poller).1
      pollers :=
        simulation.pollers.set i (poll simulation.exit simulation.host poller).2 } := by
  rw [pollerTurn, here]

theorem receiverTurn_keeps (simulation : Simulation) (i : Nat) :
    ∃ rings receivers received, simulation.receiverTurn i = { simulation with
      host := { simulation.host with rings := rings }
      receivers := receivers, received := received } := by
  unfold receiverTurn
  split
  next => exact ⟨_, _, _, rfl⟩
  next receiver here =>
    obtain ⟨ring, bytes, phase⟩ := receiver
    cases phase with
    | ready =>
      cases stops : simulation.exit with
      | true => exact ⟨_, _, _, rfl⟩
      | false => exact ⟨_, _, _, rfl⟩
    | waiting =>
      simp only [receive]
      split
      next => exact ⟨_, _, _, rfl⟩
      next => exact ⟨_, _, _, rfl⟩
    | holding => exact ⟨_, _, _, rfl⟩
    | stopped => exact ⟨_, _, _, rfl⟩

theorem clerkTurn_keeps (simulation : Simulation) :
    ∃ clerk last lines exit, simulation.clerkTurn = { simulation with
      clerk := clerk, last := last, lines := lines, exit := exit } := by
  unfold clerkTurn
  split
  · split
    · exact ⟨_, _, _, _, rfl⟩
    · exact ⟨_, _, _, _, rfl⟩
  · split
    · exact ⟨_, _, _, _, rfl⟩
    · exact ⟨_, _, _, _, rfl⟩
  · split
    · exact ⟨_, _, _, _, rfl⟩
    · exact ⟨_, _, _, _, rfl⟩
  · split
    · exact ⟨_, _, _, _, rfl⟩
    · exact ⟨_, _, _, _, rfl⟩
  · exact ⟨_, _, _, _, rfl⟩

theorem rebinderTurn_cases (simulation : Simulation) :
    (∃ call rebinder, simulation.rebinder.phase = .calling call ∧
      simulation.rebinderTurn = { simulation with
        host := (simulation.host.step 0 call).host, rebinder := rebinder } ∧
      ∀ next, rebinder.phase = .calling next →
        (simulation.host.step 0 call).progress = .ongoing next) ∨
    ∃ rebinder, simulation.rebinderTurn = { simulation with rebinder := rebinder } ∧
      ∀ call, rebinder.phase = .calling call → ∃ round,
        call = .asked (rebindRequest simulation.host.table.capacity simulation.handles round) := by
  unfold rebinderTurn
  dsimp only
  split
  next =>
    refine .inr ⟨_, rfl, fun call calls => ?_⟩
    dsimp only at calls
    split at calls
    · cases calls
    · cases calls
  next =>
    refine .inr ⟨_, rfl, fun call calls => ?_⟩
    cases calls
    exact ⟨_, rfl⟩
  next call phase =>
    refine .inl ⟨call, ?_⟩
    split
    next next goes =>
      refine ⟨_, phase, rfl, fun other calls => ?_⟩
      cases calls
      exact goes
    next outcome ends => exact ⟨_, phase, rfl, nofun⟩
  next phase =>
    refine .inr ⟨simulation.rebinder, rfl, fun call calls => ?_⟩
    rw [phase] at calls
    cases calls

inductive Moved (simulation : Simulation) : Event → Simulation → Prop where
  | polled {i : Nat} {poller : Poller} (here : simulation.pollers[i]? = some poller) :
      Moved simulation (.poller i) { simulation with
        host := (poll simulation.exit simulation.host poller).1
        pollers := simulation.pollers.set i (poll simulation.exit simulation.host poller).2 }
  /-- there is no such poller -/
  | passed {i : Nat} (none : simulation.pollers[i]? = none) :
      Moved simulation (.poller i) simulation
  | received (i : Nat) (rings : List (Ring Buffer)) (receivers : List Receiver)
      (received : UInt64) :
      Moved simulation (.receiver i) { simulation with
        host := { simulation.host with rings := rings }
        receivers := receivers, received := received }
  | called {call : Call} {rebinder : Rebinder} (calls : simulation.rebinder.phase = .calling call)
      (goes : ∀ next, rebinder.phase = .calling next →
        (simulation.host.step 0 call).progress = .ongoing next) :
      Moved simulation .rebinder { simulation with
        host := (simulation.host.step 0 call).host, rebinder := rebinder }
  | asked {rebinder : Rebinder} (asks : ∀ call, rebinder.phase = .calling call → ∃ round,
        call = .asked (rebindRequest simulation.host.table.capacity simulation.handles round)) :
      Moved simulation .rebinder { simulation with rebinder := rebinder }
  | wrote (clerk : ClerkPhase) (last : Counters) (lines : List SimulationLine) (exit : Bool) :
      Moved simulation .clerk { simulation with
        clerk := clerk, last := last, lines := lines, exit := exit }
  | interrupted : Moved simulation .interrupt { simulation with exit := true }
  | ended : Moved simulation .timeUp { simulation with timeUp := true }

theorem moved_step (simulation : Simulation) (event : Event) :
    simulation.Moved event (simulation.step event) := by
  cases event with
  | poller i =>
    cases here : simulation.pollers[i]? with
    | none =>
      rw [step, pollerTurn_of_none here]
      exact .passed here
    | some poller =>
      rw [step, pollerTurn_of_some here]
      exact .polled here
  | receiver i =>
    obtain ⟨rings, receivers, received, same⟩ := simulation.receiverTurn_keeps i
    rw [step, same]
    exact .received i rings receivers received
  | rebinder =>
    rw [step]
    rcases simulation.rebinderTurn_cases with
      ⟨call, rebinder, calls, same, goes⟩ | ⟨rebinder, same, asks⟩
    · rw [same]
      exact .called calls goes
    · rw [same]
      exact .asked asks
  | clerk =>
    obtain ⟨clerk, last, lines, exit, same⟩ := simulation.clerkTurn_keeps
    rw [step, same]
    exact .wrote clerk last lines exit
  | interrupt => exact .interrupted
  | timeUp => exact .ended

theorem poll_keeps (exit : Bool) (host : Host Buffer) (poller : Poller) :
    (poll exit host poller).1.table = host.table ∧
      (poll exit host poller).1.sockets = host.sockets := by
  obtain ⟨queue, offset, phase⟩ := poller
  cases phase with
  | ready =>
    cases exit with
    | true => exact ⟨rfl, rfl⟩
    | false => exact ⟨rfl, host.sockets_countFrame 0⟩
  | counted => exact ⟨rfl, rfl⟩
  | decided decision =>
    cases decision with
    | redirect handle => exact ⟨host.table_offer 0 handle _, host.sockets_offer 0 handle _⟩
    | drop => exact ⟨rfl, rfl⟩
    | pass => exact ⟨rfl, rfl⟩
  | settled disposition => exact ⟨rfl, host.sockets_countOutcome 0 disposition⟩
  | stopped => exact ⟨rfl, rfl⟩

/-- A poller that is about to redirect its frame has just found its queue bound. -/
theorem lookup_of_poll {exit : Bool} {host : Host Buffer} {poller : Poller}
    {handle : SocketHandle}
    (aims : (poll exit host poller).2.phase = .decided (.redirect handle)) :
    host.table.lookup poller.queue = some handle := by
  obtain ⟨queue, offset, phase⟩ := poller
  cases phase with
  | ready =>
    cases exit with
    | true => cases aims
    | false => cases aims
  | counted => exact Host.lookup_of_redirect (PollerPhase.decided.inj aims)
  | decided decision =>
    cases decision with
    | redirect other => cases aims
    | drop => cases aims
    | pass => cases aims
  | settled disposition => cases aims
  | stopped => cases aims

theorem fits_rebindRequest {table : Table} {handles : List SocketHandle} (some : handles ≠ [])
    (round : UInt64) :
    (Call.asked (rebindRequest table.capacity handles round)).Fits table.slots.length handles := by
  have inside : (round % table.capacity.toUInt64).toUInt32.toNat < table.slots.length := by
    have size := table.toNat_capacity
    have low : round.toNat % table.slots.length < table.slots.length :=
      Nat.mod_lt _ table.length_pos
    have small : table.slots.length ≤ 64 := table.length_le
    rw [UInt64.toNat_toUInt32, UInt64.toNat_mod, UInt32.toNat_toUInt64, size]
    omega
  have socket : round.toNat % handles.length < handles.length :=
    Nat.mod_lt _ (List.length_pos_iff.mpr some)
  unfold rebindRequest
  split
  next => exact inside
  next =>
    refine ⟨inside, ?_⟩
    rw [List.getD_eq_getElem?_getD, List.getElem?_eq_getElem socket]
    exact List.getElem_mem socket

/-- Every binding there is, or that somebody goes by or is about to make, is one to a socket of the
simulation, and these are live. -/
structure Wired (simulation : Simulation) : Prop where
  sockets : simulation.handles ≠ []
  live : ∀ handle ∈ simulation.handles, simulation.host.isRegistered 0 handle = true
  bound : ∀ queue handle, simulation.host.table.lookup queue = some handle →
    handle ∈ simulation.handles
  aimed : ∀ poller ∈ simulation.pollers, ∀ handle,
    poller.phase = .decided (.redirect handle) → handle ∈ simulation.handles
  calls : ∀ call, simulation.rebinder.phase = .calling call →
    call.Fits simulation.host.table.slots.length simulation.handles

namespace Wired

variable (wired : simulation.Wired)

include wired

theorem step (event : Event) : (simulation.step event).Wired := by
  have moved := simulation.moved_step event
  generalize simulation.step event = after at moved ⊢
  cases moved with
  | @polled i poller here =>
    obtain ⟨table, sockets⟩ := poll_keeps simulation.exit simulation.host poller
    refine ⟨wired.sockets, ?_, ?_, ?_, ?_⟩
    · intro handle member
      rw [Host.isRegistered, (Host.registry_of_sockets sockets 0).1]
      exact wired.live handle member
    · rw [table]
      exact wired.bound
    · intro other member handle aims
      rcases List.mem_or_eq_of_mem_set member with old | rfl
      · exact wired.aimed other old handle aims
      · exact wired.bound _ handle (lookup_of_poll aims)
    · rw [table]
      exact wired.calls
  | @called call rebinder calls goes =>
    obtain ⟨table, host, size, bound, fits⟩ :=
      Host.step_of_fits wired.live wired.bound (wired.calls call calls)
    rw [host]
    refine ⟨wired.sockets, wired.live, bound, wired.aimed, ?_⟩
    intro next calls
    change next.Fits table.slots.length simulation.handles
    rw [size]
    rcases fits with ⟨other, goesOn, fits, -⟩ | ⟨outcome, ends, -⟩
    · cases goesOn.symm.trans (goes next calls)
      exact fits
    · cases ends.symm.trans (goes next calls)
  | asked asks =>
    refine ⟨wired.sockets, wired.live, wired.bound, wired.aimed, ?_⟩
    intro call calls
    obtain ⟨round, rfl⟩ := asks call calls
    exact fits_rebindRequest wired.sockets round
  | passed none => exact wired
  | received i rings receivers received =>
    exact ⟨wired.sockets, wired.live, wired.bound, wired.aimed, wired.calls⟩
  | wrote clerk last lines exit =>
    exact ⟨wired.sockets, wired.live, wired.bound, wired.aimed, wired.calls⟩
  | interrupted => exact ⟨wired.sockets, wired.live, wired.bound, wired.aimed, wired.calls⟩
  | ended => exact ⟨wired.sockets, wired.live, wired.bound, wired.aimed, wired.calls⟩

theorem run (schedule : List Event) : (simulation.run schedule).Wired := by
  induction schedule generalizing simulation with
  | nil => exact wired
  | cons event rest ih => exact ih (wired.step event)

end Wired

end Simulation
end RxSteering
