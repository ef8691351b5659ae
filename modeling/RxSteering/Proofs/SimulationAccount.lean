import RxSteering.Proofs.SimulationBindings

/-!
The account of the simulation's frames. Each turn of a poller is an access on the way of its frame,
so the counters hold what was concluded so far, with one frame more for each poller that is in the
middle of one; and what the miss policy rules out is never concluded.
-/
namespace RxSteering

def Poller.passage (poller : Poller) : Passage Buffer :=
  match poller.phase with
  | .ready => .arrived ⟨poller.queue.index, ⟨poller.offset, frameLength⟩⟩
  | .counted => .counted ⟨poller.queue.index, ⟨poller.offset, frameLength⟩⟩
  | .decided decision => .decided decision ⟨poller.offset, frameLength⟩
  | .settled disposition => .settled disposition
  | .stopped => .arrived ⟨poller.queue.index, ⟨poller.offset, frameLength⟩⟩

def Poller.isSettledAs (tally : Tally) (poller : Poller) : Bool :=
  poller.passage.answer?.any fun disposition => disposition.tally = tally

def Poller.concludes (poller : Poller) : List Tally :=
  poller.passage.answer?.toList.map Disposition.tally

namespace Simulation

def begins (exit : Bool) (_ : Host Buffer) (poller : Poller) : Nat :=
  if poller.phase = .ready ∧ exit = false then 1 else 0

def settles (tally : Tally) (exit : Bool) (host : Host Buffer) (poller : Poller) : Nat :=
  match poller.phase with
  | .decided _ => ((poll exit host poller).2.isSettledAs tally).toNat
  | _ => 0

def polled? (simulation : Simulation) : Event → Option Poller
  | .poller i => simulation.pollers[i]?
  | _ => none

/-- What the pollers' turns of a schedule amount to. -/
def total (simulation : Simulation) (amount : Bool → Host Buffer → Poller → Nat) :
    List Event → Nat
  | [] => 0
  | event :: rest =>
    ((simulation.polled? event).map (amount simulation.exit simulation.host)).getD 0 +
      (simulation.step event).total amount rest

def outcomes (simulation : Simulation) : List Event → List Tally
  | [] => []
  | event :: rest =>
    (simulation.polled? event).toList.flatMap Poller.concludes ++
      (simulation.step event).outcomes rest

def halfCounted (simulation : Simulation) : Nat :=
  simulation.pollers.countP fun poller => poller.passage.isHalfCounted

def Resting (simulation : Simulation) : Prop :=
  ∀ poller ∈ simulation.pollers, poller.phase = .ready ∨ poller.phase = .stopped

variable {simulation : Simulation}

theorem Resting.halfCounted (resting : simulation.Resting) : simulation.halfCounted = 0 := by
  refine List.countP_eq_zero.mpr fun poller member => ?_
  rcases resting poller member with ready | stopped
  · simp [Poller.passage, ready, Passage.isHalfCounted]
  · simp [Poller.passage, stopped, Passage.isHalfCounted]

theorem Resting.settled (resting : simulation.Resting) (tally : Tally) :
    simulation.pollers.countP (Poller.isSettledAs tally) = 0 := by
  refine List.countP_eq_zero.mpr fun poller member => ?_
  rcases resting poller member with ready | stopped
  · simp [Poller.isSettledAs, Poller.passage, ready, Passage.answer?]
  · simp [Poller.isSettledAs, Poller.passage, stopped, Passage.answer?]

theorem step_of_polled {event : Event} {poller : Poller}
    (mine : simulation.polled? event = some poller) :
    ∃ i, simulation.pollers[i]? = some poller ∧ simulation.step event = { simulation with
      host := (poll simulation.exit simulation.host poller).1
      pollers :=
        simulation.pollers.set i (poll simulation.exit simulation.host poller).2 } := by
  cases event with
  | poller i => exact ⟨i, mine, pollerTurn_of_some mine⟩
  | receiver i => cases mine
  | rebinder => cases mine
  | clerk => cases mine
  | interrupt => cases mine
  | timeUp => cases mine

theorem step_of_unpolled {event : Event} (other : simulation.polled? event = none) :
    (simulation.step event).pollers = simulation.pollers ∧
      (simulation.step event).counters = simulation.counters ∧
      (simulation.step event).host.policies = simulation.host.policies := by
  have moved := simulation.moved_step event
  generalize simulation.step event = after at moved ⊢
  cases moved with
  | polled here =>
    rw [polled?, here] at other
    cases other
  | @called call rebinder calls goes =>
    exact ⟨rfl, simulation.host.counters_step 0 0 call, simulation.host.policies_step 0 call⟩
  | passed none => exact ⟨rfl, rfl, rfl⟩
  | received i rings receivers received => exact ⟨rfl, rfl, rfl⟩
  | asked asks => exact ⟨rfl, rfl, rfl⟩
  | wrote clerk last lines exit => exact ⟨rfl, rfl, rfl⟩
  | interrupted => exact ⟨rfl, rfl, rfl⟩
  | ended => exact ⟨rfl, rfl, rfl⟩

theorem run_append (simulation : Simulation) (earlier later : List Event) :
    simulation.run (earlier ++ later) = (simulation.run earlier).run later :=
  List.foldl_append

theorem total_append (simulation : Simulation) (amount : Bool → Host Buffer → Poller → Nat)
    (earlier later : List Event) :
    simulation.total amount (earlier ++ later) =
      simulation.total amount earlier + (simulation.run earlier).total amount later := by
  induction earlier generalizing simulation with
  | nil => exact (Nat.zero_add _).symm
  | cons event rest ih =>
    rw [List.cons_append, total, total, ih (simulation.step event), Nat.add_assoc]
    rfl

theorem total_le_of_prefix (simulation : Simulation)
    (amount : Bool → Host Buffer → Poller → Nat)
    {earlier schedule : List Event} (first : earlier <+: schedule) :
    simulation.total amount earlier ≤ simulation.total amount schedule := by
  obtain ⟨later, rfl⟩ := first
  rw [total_append]
  exact Nat.le_add_right ..

theorem total_of_stopped {amount : Bool → Host Buffer → Poller → Nat}
    (still : ∀ exit host poller, poller.phase = .stopped → amount exit host poller = 0)
    (stopped : ∀ poller ∈ simulation.pollers, poller.phase = .stopped) (schedule : List Event) :
    simulation.total amount schedule = 0 := by
  induction schedule generalizing simulation with
  | nil => rfl
  | cons event rest ih =>
    rw [total]
    cases mine : simulation.polled? event with
    | none =>
      refine (Nat.zero_add _).trans (ih ?_)
      rw [(step_of_unpolled mine).1]
      exact stopped
    | some poller =>
      obtain ⟨i, here, after⟩ := step_of_polled mine
      have stands := stopped poller (List.mem_of_getElem? here)
      have same : (poll simulation.exit simulation.host poller).2 = poller := by
        rw [poll, stands]
      rw [Option.map_some, Option.getD_some, still _ _ poller stands]
      refine (Nat.zero_add _).trans (ih ?_)
      rw [after, same]
      intro other member
      rcases List.mem_or_eq_of_mem_set member with old | rfl
      · exact stopped other old
      · exact stands

/-- What the turns of a schedule owe they have paid with their outcomes, or a poller is listed as
owing it still. -/
theorem balance_run {counts : Poller → Bool} {owed : Bool → Host Buffer → Poller → Nat}
    {paid : List Tally → Nat}
    (joins : ∀ first second, paid (first ++ second) = paid first + paid second)
    (balance : ∀ exit host poller,
      paid poller.concludes + (counts (poll exit host poller).2).toNat =
        (counts poller).toNat + owed exit host poller)
    (simulation : Simulation) (schedule : List Event) :
    paid (simulation.outcomes schedule) + (simulation.run schedule).pollers.countP counts =
      simulation.pollers.countP counts + simulation.total owed schedule := by
  have nothing : paid [] = 0 := by
    have twice := joins [] []
    rw [List.append_nil] at twice
    omega
  induction schedule generalizing simulation with
  | nil =>
    change paid [] + simulation.pollers.countP counts = simulation.pollers.countP counts + 0
    omega
  | cons event rest ih =>
    have later := ih (simulation.step event)
    change paid _ + ((simulation.step event).run rest).pollers.countP counts = _
    rw [outcomes, joins, total]
    cases mine : simulation.polled? event with
    | none =>
      rw [(step_of_unpolled mine).1] at later
      simp only [Option.toList_none, List.flatMap_nil, Option.map_none, Option.getD_none]
      omega
    | some poller =>
      obtain ⟨i, here, after⟩ := step_of_polled mine
      have exchange := countP_set_exchange simulation.pollers counts here
        (poll simulation.exit simulation.host poller).2
      have turn := balance simulation.exit simulation.host poller
      have pollers : (simulation.step event).pollers.countP counts =
          (simulation.pollers.set i
            (poll simulation.exit simulation.host poller).2).countP counts := by rw [after]
      simp only [Option.toList_some, List.flatMap_cons, List.flatMap_nil, List.append_nil,
        Option.map_some, Option.getD_some]
      omega

theorem begun_eq (simulation : Simulation) (schedule : List Event) :
    (simulation.outcomes schedule).length + (simulation.run schedule).halfCounted =
      simulation.halfCounted + simulation.total begins schedule := by
  apply balance_run (fun _ _ => List.length_append)
  intro exit host poller
  obtain ⟨queue, offset, phase⟩ := poller
  cases phase with
  | ready =>
    cases exit with
    | true => rfl
    | false => rfl
  | counted => rfl
  | decided decision =>
    cases decision with
    | redirect handle => rfl
    | drop => rfl
    | pass => rfl
  | settled disposition => rfl
  | stopped => rfl

theorem settled_eq (tally : Tally) (simulation : Simulation) (schedule : List Event) :
    (simulation.outcomes schedule).count tally +
        (simulation.run schedule).pollers.countP (Poller.isSettledAs tally) =
      simulation.pollers.countP (Poller.isSettledAs tally) +
        simulation.total (settles tally) schedule := by
  apply balance_run (fun _ _ => List.count_append)
  intro exit host poller
  obtain ⟨queue, offset, phase⟩ := poller
  cases phase with
  | ready =>
    cases exit with
    | true => rfl
    | false => rfl
  | counted => rfl
  | decided decision =>
    change 0 + _ = 0 + _
    rfl
  | settled disposition =>
    change [disposition.tally].count tally + 0 = (decide (disposition.tally = tally)).toNat + 0
    by_cases same : disposition.tally = tally
    · simp [same]
    · simp [same]
  | stopped => rfl

theorem counters_poll {exit : Bool} {host : Host Buffer} (inside : 0 < host.dispatchers.length)
    {poller : Poller} {tallies : List Tally} {before after : Nat}
    (holds : (host.dispatcher 0).counters = .ofTallies tallies before)
    (moves : after + poller.passage.isHalfCounted.toNat =
      before + (poll exit host poller).2.passage.isHalfCounted.toNat) :
    ((poll exit host poller).1.dispatcher 0).counters =
      .ofTallies (tallies ++ poller.concludes) after := by
  have quiet (same : (poll exit host poller).1.dispatchers = host.dispatchers)
      (silent : poller.concludes = []) (still : after = before) :
      ((poll exit host poller).1.dispatcher 0).counters =
        .ofTallies (tallies ++ poller.concludes) after := by
    rw [Host.dispatcher, same, silent, still, List.append_nil]
    exact holds
  obtain ⟨queue, offset, phase⟩ := poller
  cases phase with
  | ready =>
    cases exit with
    | true => exact quiet rfl rfl moves
    | false =>
      let frame : Frame Buffer := ⟨queue.index, ⟨offset, frameLength⟩⟩
      have counts : ((host.pass 0 (.arrived frame)).1.dispatcher 0).counters = _ :=
        Host.counters_pass inside holds moves
      exact counts
  | counted => exact quiet rfl rfl (Nat.add_right_cancel moves)
  | decided decision =>
    have still : after = before := by
      cases decision <;> exact Nat.add_right_cancel moves
    cases decision with
    | redirect handle =>
      have same : (host.offer 0 handle ⟨offset, frameLength⟩).2.dispatchers =
          host.dispatchers := by
        rw [Host.offer_eq_offerTo, Host.offerTo_eq, Host.dispatchers_take]
      exact quiet same rfl still
    | drop => exact quiet rfl rfl still
    | pass => exact quiet rfl rfl still
  | settled disposition =>
    have counts : ((host.pass 0 (.settled disposition)).1.dispatcher 0).counters = _ :=
      Host.counters_pass inside holds moves
    exact counts
  | stopped => exact quiet rfl rfl moves

theorem policies_poll (exit : Bool) (host : Host Buffer) (poller : Poller) :
    (poll exit host poller).1.policies = host.policies := by
  obtain ⟨queue, offset, phase⟩ := poller
  cases phase with
  | ready =>
    cases exit with
    | true => rfl
    | false => exact host.policies_modifyDispatcher 0 _ fun _ => rfl
  | counted => rfl
  | decided decision =>
    cases decision with
    | redirect handle => exact host.policies_offer 0 handle _
    | drop => rfl
    | pass => rfl
  | settled disposition => exact host.policies_modifyDispatcher 0 _ fun _ => rfl
  | stopped => rfl

theorem follows_poll {exit : Bool} {host : Host Buffer} {poller : Poller}
    (follows : poller.passage.Follows (host.dispatcher 0).miss) :
    (poll exit host poller).2.passage.Follows (host.dispatcher 0).miss := by
  obtain ⟨queue, offset, phase⟩ := poller
  let payload : Buffer := ⟨offset, frameLength⟩
  cases phase with
  | ready =>
    cases exit with
    | true => trivial
    | false => trivial
  | counted =>
    have decides : (host.pass 0 (.counted ⟨queue.index, payload⟩)).2.Follows _ :=
      Host.follows_pass follows
    exact decides
  | decided decision =>
    cases decision with
    | redirect handle =>
      change (host.offer 0 handle payload).1.tally ≠ _
      rw [Host.offer_eq_offerTo, Host.offerTo_eq]
      apply MissPolicy.tally_offered
    | drop =>
      have decides : (host.pass 0 (.decided .drop payload)).2.Follows _ :=
        Host.follows_pass follows
      exact decides
    | pass =>
      have decides : (host.pass 0 (.decided .pass payload)).2.Follows _ :=
        Host.follows_pass follows
      exact decides
  | settled disposition => trivial
  | stopped => trivial

structure Accounted (simulation : Simulation) (miss : MissPolicy) (tallies : List Tally) :
    Prop where
  inside : 0 < simulation.host.dispatchers.length
  counters : simulation.counters = .ofTallies tallies simulation.halfCounted
  policy : (simulation.host.dispatcher 0).miss = miss
  follows : ∀ poller ∈ simulation.pollers, poller.passage.Follows miss
  allowed : miss.never ∉ tallies

namespace Accounted

variable {miss : MissPolicy} {tallies : List Tally}

theorem step (accounted : simulation.Accounted miss tallies) (event : Event) :
    (simulation.step event).Accounted miss
      (tallies ++ (simulation.polled? event).toList.flatMap Poller.concludes) := by
  cases mine : simulation.polled? event with
  | none =>
    obtain ⟨pollers, counters, policies⟩ := step_of_unpolled mine
    rw [Option.toList_none, List.flatMap_nil, List.append_nil]
    refine ⟨?_, ?_, ?_, ?_, accounted.allowed⟩
    · rw [Host.length_of_policies policies]
      exact accounted.inside
    · rw [counters, halfCounted, pollers]
      exact accounted.counters
    · rw [Host.miss_of_policies policies]
      exact accounted.policy
    · rw [pollers]
      exact accounted.follows
  | some poller =>
    obtain ⟨i, here, after⟩ := step_of_polled mine
    have follows := accounted.follows poller (List.mem_of_getElem? here)
    have policies := policies_poll simulation.exit simulation.host poller
    rw [after, Option.toList_some, List.flatMap_cons, List.flatMap_nil, List.append_nil]
    refine ⟨?_, ?_, ?_, ?_, ?_⟩
    · change 0 < (poll simulation.exit simulation.host poller).1.dispatchers.length
      rw [Host.length_of_policies policies]
      exact accounted.inside
    · exact counters_poll accounted.inside accounted.counters
        (countP_set_exchange simulation.pollers (fun poller => poller.passage.isHalfCounted) here _)
    · exact (Host.miss_of_policies policies 0).trans accounted.policy
    · intro other member
      rcases List.mem_or_eq_of_mem_set member with old | rfl
      · exact accounted.follows other old
      · rw [← accounted.policy] at follows ⊢
        exact follows_poll follows
    · intro member
      rcases List.mem_append.mp member with old | new
      · exact accounted.allowed old
      · obtain ⟨disposition, answers, never⟩ := List.mem_map.mp new
        obtain settled := Passage.answer?_eq_some.mp (Option.mem_toList.mp answers)
        rw [settled] at follows
        exact follows never

theorem run (accounted : simulation.Accounted miss tallies) (schedule : List Event) :
    (simulation.run schedule).Accounted miss (tallies ++ simulation.outcomes schedule) := by
  induction schedule generalizing simulation tallies with
  | nil =>
    rw [outcomes, List.append_nil]
    exact accounted
  | cons event rest ih =>
    rw [outcomes, ← List.append_assoc]
    exact ih (accounted.step event)

end Accounted

end Simulation
end RxSteering
