import RxSteering.Proofs.SimulationStart

/-!
What the clerk of the simulation writes. It reads the counters one after the other while the
pollers go on, but they only grow; so what it has read is never behind what it read for the report
before, and its differences do not wrap.
-/
namespace RxSteering

namespace Counters

structure AtMost (before now : Counters) : Prop where
  frames : before.frames ≤ now.frames
  redirected : before.redirected ≤ now.redirected
  droppedUnmapped : before.droppedUnmapped ≤ now.droppedUnmapped
  droppedUnavailable : before.droppedUnavailable ≤ now.droppedUnavailable
  passed : before.passed ≤ now.passed

theorem atMost_iff {before now : Counters} :
    before.AtMost now ↔ ∀ i, before.account.getD i 0 ≤ now.account.getD i 0 := by
  constructor
  · intro below i
    match i with
    | 0 => exact below.frames
    | 1 => exact below.redirected
    | 2 => exact below.droppedUnmapped
    | 3 => exact below.droppedUnavailable
    | 4 => exact below.passed
    | _ + 5 => exact UInt64.le_refl 0
  · intro below
    exact ⟨below 0, below 1, below 2, below 3, below 4⟩

theorem AtMost.refl (counters : Counters) : counters.AtMost counters :=
  atMost_iff.mpr fun _ => UInt64.le_refl _

theorem AtMost.trans {first second third : Counters} (before : first.AtMost second)
    (after : second.AtMost third) : first.AtMost third :=
  atMost_iff.mpr fun i => UInt64.le_trans (atMost_iff.mp before i) (atMost_iff.mp after i)

theorem ofAccount?_eq_some {words : List UInt64} {counters : Counters} :
    ofAccount? words = some counters ↔ words = counters.account := by
  constructor
  · intro whole
    unfold ofAccount? at whole
    split at whole
    next => cases whole; rfl
    next => cases whole
  · rintro rfl
    rfl

theorem atMost_ofTallies {tallies more : List Tally} {before after : Nat}
    (grows : tallies.length + before ≤ (tallies ++ more).length + after)
    (few : (tallies ++ more).length + after < 2 ^ 64) :
    (ofTallies tallies before).AtMost (ofTallies (tallies ++ more) after) := by
  have counts (tally : Tally) : tallies.count tally ≤ (tallies ++ more).count tally := by
    rw [List.count_append]
    exact Nat.le_add_right ..
  have earlier := hold_ofTallies (Nat.lt_of_le_of_lt grows few)
  have later := hold_ofTallies few
  constructor
  · rwa [UInt64.le_iff_toNat_le, earlier.frames, later.frames]
  · rw [UInt64.le_iff_toNat_le, earlier.redirected, later.redirected]
    exact counts _
  · rw [UInt64.le_iff_toNat_le, earlier.droppedUnmapped, later.droppedUnmapped]
    exact counts _
  · rw [UInt64.le_iff_toNat_le, earlier.droppedUnavailable, later.droppedUnavailable]
    exact counts _
  · rw [UInt64.le_iff_toNat_le, earlier.passed, later.passed]
    exact counts _

end Counters

def ClerkPhase.taken? : ClerkPhase → Option (List UInt64)
  | opening taken => some taken
  | reading taken => some taken
  | _ => none

namespace Simulation

variable {simulation : Simulation}

theorem step_of_not_clerk {event : Event} (other : event ≠ .clerk) :
    (simulation.step event).clerk = simulation.clerk ∧
      (simulation.step event).last = simulation.last ∧
      (simulation.step event).lines = simulation.lines := by
  have moved := simulation.moved_step event
  generalize simulation.step event = after at moved ⊢
  cases moved with
  | polled here => exact ⟨rfl, rfl, rfl⟩
  | passed none => exact ⟨rfl, rfl, rfl⟩
  | received i rings receivers received => exact ⟨rfl, rfl, rfl⟩
  | called calls goes => exact ⟨rfl, rfl, rfl⟩
  | asked asks => exact ⟨rfl, rfl, rfl⟩
  | wrote clerk last lines exit => exact absurd rfl other
  | interrupted => exact ⟨rfl, rfl, rfl⟩
  | ended => exact ⟨rfl, rfl, rfl⟩

/-- What the clerk has read is not behind the report before, and not ahead of the counters. -/
structure Abreast (simulation : Simulation) : Prop where
  last : simulation.last.AtMost simulation.counters
  taken : ∀ taken, simulation.clerk.taken? = some taken → ∀ i word, taken[i]? = some word →
    simulation.last.account.getD i 0 ≤ word ∧ word ≤ simulation.counters.account.getD i 0

namespace Abreast

theorem between (abreast : simulation.Abreast) {now : Counters}
    (read : simulation.clerk.taken? = some now.account) :
    simulation.last.AtMost now ∧ now.AtMost simulation.counters := by
  have words (i : Nat) : simulation.last.account.getD i 0 ≤ now.account.getD i 0 ∧
      now.account.getD i 0 ≤ simulation.counters.account.getD i 0 := by
    rcases Nat.lt_or_ge i 5 with inside | outside
    · have here : now.account[i]? = some (now.account.getD i 0) := by
        rw [List.getD_eq_getElem?_getD, List.getElem?_eq_getElem inside, Option.getD_some]
      exact abreast.taken _ read i _ here
    · have zero (counters : Counters) : counters.account.getD i 0 = 0 := by
        rw [List.getD_eq_getElem?_getD, List.getElem?_eq_none outside, Option.getD_none]
      rw [zero, zero, zero]
      exact ⟨UInt64.le_refl 0, UInt64.le_refl 0⟩
  exact ⟨Counters.atMost_iff.mpr fun i => (words i).1, Counters.atMost_iff.mpr fun i => (words i).2⟩

theorem readOn (abreast : simulation.Abreast) {taken : List UInt64}
    (reads : simulation.clerk.taken? = some taken) (i : Nat) (word : UInt64)
    (here : (simulation.readOn taken)[i]? = some word) :
    simulation.last.account.getD i 0 ≤ word ∧ word ≤ simulation.counters.account.getD i 0 := by
  rw [Simulation.readOn] at here
  rcases Nat.lt_trichotomy i taken.length with before | rfl | beyond
  · rw [List.getElem?_append_left before] at here
    exact abreast.taken taken reads i word here
  · rw [List.getElem?_concat_length] at here
    cases here
    exact ⟨Counters.atMost_iff.mp abreast.last _, UInt64.le_refl _⟩
  · rw [List.getElem?_eq_none (by simpa using Nat.succ_le_of_lt beyond)] at here
    cases here

theorem clerkTurn (abreast : simulation.Abreast) : simulation.clerkTurn.Abreast := by
  unfold Simulation.clerkTurn
  split
  next taken phase =>
    have reads : simulation.clerk.taken? = some taken := congrArg ClerkPhase.taken? phase
    split
    next now whole =>
      rw [Counters.ofAccount?_eq_some.mp whole] at reads
      exact ⟨(abreast.between reads).2, nofun⟩
    next =>
      refine ⟨abreast.last, fun words same => ?_⟩
      cases same
      exact abreast.readOn reads
  next =>
    split
    next => exact ⟨abreast.last, nofun⟩
    next =>
      refine ⟨abreast.last, fun words same i word here => ?_⟩
      cases same
      cases here
  next taken phase =>
    have reads : simulation.clerk.taken? = some taken := congrArg ClerkPhase.taken? phase
    split
    next now whole =>
      rw [Counters.ofAccount?_eq_some.mp whole] at reads
      exact ⟨(abreast.between reads).2, nofun⟩
    next =>
      refine ⟨abreast.last, fun words same => ?_⟩
      cases same
      exact abreast.readOn reads
  next phase =>
    split
    next => exact ⟨abreast.last, nofun⟩
    next => exact abreast
  next => exact abreast

theorem step (abreast : simulation.Abreast) {event : Event}
    (grows : simulation.counters.AtMost (simulation.step event).counters) :
    (simulation.step event).Abreast := by
  by_cases mine : event = .clerk
  · subst mine
    exact abreast.clerkTurn
  · obtain ⟨clerk, last, -⟩ := step_of_not_clerk mine
    refine ⟨?_, ?_⟩
    · rw [last]
      exact abreast.last.trans grows
    · intro taken reads i word here
      rw [clerk] at reads
      rw [last]
      obtain ⟨above, below⟩ := abreast.taken taken reads i word here
      exact ⟨above, UInt64.le_trans below (Counters.atMost_iff.mp grows i)⟩

end Abreast

theorem Accounted.grows {miss : MissPolicy} {tallies : List Tally}
    (accounted : simulation.Accounted miss tallies) (event : Event)
    (few : tallies.length + simulation.halfCounted + simulation.total begins [event] < 2 ^ 64) :
    simulation.counters.AtMost (simulation.step event).counters := by
  have begun := simulation.begun_eq [event]
  have after : (simulation.step event).counters = .ofTallies
      (tallies ++ simulation.outcomes [event]) (simulation.run [event]).halfCounted :=
    (accounted.run [event]).counters
  have size : (tallies ++ simulation.outcomes [event]).length +
      (simulation.run [event]).halfCounted =
        tallies.length + simulation.halfCounted + simulation.total begins [event] := by
    rw [List.length_append]
    omega
  rw [accounted.counters, after]
  apply Counters.atMost_ofTallies
  · omega
  · rwa [size]

theorem Abreast.run {miss : MissPolicy} {tallies : List Tally} (abreast : simulation.Abreast)
    (accounted : simulation.Accounted miss tallies) {schedule : List Event}
    (few : tallies.length + simulation.halfCounted + simulation.total begins schedule < 2 ^ 64) :
    (simulation.run schedule).Abreast := by
  induction schedule generalizing simulation tallies with
  | nil => exact abreast
  | cons event rest ih =>
    have split := simulation.total_append begins [event] rest
    change simulation.total begins (event :: rest) =
      _ + (simulation.step event).total begins rest at split
    have begun := simulation.begun_eq [event]
    change (simulation.outcomes [event]).length + (simulation.step event).halfCounted = _ at begun
    have grows := accounted.grows event (by omega)
    refine ih (abreast.step grows) (accounted.run [event]) ?_
    rw [List.length_append]
    omega

def writes? (simulation : Simulation) : Option SimulationLine :=
  match simulation.clerk with
  | .reading taken => (Counters.ofAccount? taken).map fun now =>
    .report ⟨now.since simulation.last, simulation.host.table.count⟩
  | .closing => if simulation.everybodyStopped then some (.totals simulation.totals) else none
  | _ => none

theorem lines_step (simulation : Simulation) (event : Event) :
    (simulation.step event).lines =
      simulation.lines ++ if event = .clerk then simulation.writes?.toList else [] := by
  split
  next mine =>
    subst mine
    rw [step, clerkTurn, writes?]
    cases simulation.clerk with
    | opening taken =>
      dsimp only
      cases Counters.ofAccount? taken <;> exact (List.append_nil _).symm
    | watching =>
      dsimp only
      split <;> exact (List.append_nil _).symm
    | reading taken =>
      dsimp only
      cases Counters.ofAccount? taken with
      | none => exact (List.append_nil _).symm
      | some now => rfl
    | closing =>
      dsimp only
      split
      · rfl
      · exact (List.append_nil _).symm
    | finished => exact (List.append_nil _).symm
  next other => rw [(step_of_not_clerk other).2.2, List.append_nil]

theorem exists_of_mem_lines {schedule : List Event} (fresh : simulation.lines = [])
    {line : SimulationLine} (member : line ∈ (simulation.run schedule).lines) :
    ∃ earlier, earlier <+: schedule ∧ (simulation.run earlier).writes? = some line := by
  induction schedule using List.reverseRecOn with
  | nil =>
    change line ∈ simulation.lines at member
    rw [fresh] at member
    cases member
  | append_singleton before event ih =>
    rw [run_append] at member
    change line ∈ ((simulation.run before).step event).lines at member
    rw [lines_step] at member
    rcases List.mem_append.mp member with old | new
    · obtain ⟨earlier, first, writes⟩ := ih old
      exact ⟨earlier, first.trans (List.prefix_append ..), writes⟩
    · split at new
      next => exact ⟨before, List.prefix_append .., Option.mem_toList.mp new⟩
      next => cases new

variable {start : Simulation} {queues sockets : Nat} {miss : MissPolicy}

theorem Started.abreast (started : start.Started queues sockets miss) : start.Abreast where
  last := by
    rw [started.last, started.counters]
    exact .refl _
  taken taken reads i word here := by
    rw [started.clerk] at reads
    cases reads
    cases here

theorem Started.reports (started : start.Started queues sockets miss) {schedule : List Event}
    (few : start.total begins schedule < 2 ^ 64) {report : Report}
    (member : .report report ∈ (start.run schedule).lines) :
    ∃ earlier now, earlier <+: schedule ∧ (start.run earlier).clerk = .reading now.account ∧
      report.since = now.since (start.run earlier).last ∧
      (start.run earlier).last.AtMost now := by
  obtain ⟨earlier, first, writes⟩ := exists_of_mem_lines started.lines member
  have less := start.total_le_of_prefix begins first
  have abreast : (start.run earlier).Abreast := by
    apply started.abreast.run started.accounted
    rw [started.resting.halfCounted, List.length_nil]
    omega
  unfold writes? at writes
  split at writes
  next taken reads =>
    obtain ⟨now, whole, same⟩ := Option.map_eq_some_iff.mp writes
    cases same
    obtain rfl := Counters.ofAccount?_eq_some.mp whole
    have read : (start.run earlier).clerk.taken? = some now.account :=
      congrArg ClerkPhase.taken? reads
    exact ⟨earlier, now, first, reads, rfl, (abreast.between read).1⟩
  next =>
    split at writes
    next => cases writes
    next => cases writes
  next => cases writes

end Simulation
end RxSteering
