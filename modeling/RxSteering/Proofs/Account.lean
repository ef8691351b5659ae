import Mathlib.Algebra.Group.Nat.Defs
import RxSteering.Proofs.Counting
import RxSteering.Proofs.PayloadBook

/-!
The account of a dispatcher, held against its answers. Through any acts of any parties its counters
are, in words of 64 bits, how many of its frames were answered each way, and how many were counted
at all. Nothing but its own frames moves them, and the counter of what its policy rules out stays at
zero.
-/
namespace RxSteering

variable {β : Type}

theorem length_tallies (tallies : List Tally) :
    tallies.length = tallies.count .redirected + tallies.count (.dropped .unmappedQueue) +
      tallies.count (.dropped .targetUnavailable) + tallies.count .passed := by
  induction tallies with
  | nil => rfl
  | cons tally rest ih =>
    have one : (if tally == .redirected then 1 else 0) +
        (if tally == .dropped .unmappedQueue then 1 else 0) +
        (if tally == .dropped .targetUnavailable then 1 else 0) +
        (if tally == .passed then 1 else 0) = 1 := by
      rcases tally with _ | (_ | _) | _ <;> rfl
    simp only [List.length_cons, List.count_cons, ih]
    omega

theorem countP_set_exchange {α : Type} (list : List α) (counts : α → Bool) {index : Nat} {old : α}
    (here : list[index]? = some old) (new : α) :
    (list.set index new).countP counts + (counts old).toNat =
      list.countP counts + (counts new).toNat := by
  obtain ⟨inside, same⟩ := List.getElem?_eq_some_iff.mp here
  rw [List.countP_set inside, same]
  cases counted : counts old with
  | true =>
    have some : 0 < list.countP counts :=
      List.countP_pos_iff.mpr ⟨old, List.mem_of_getElem? here, counted⟩
    simp only [Bool.toNat_true, if_true]
    cases counts new with
    | true =>
      simp only [Bool.toNat_true, if_true]
      omega
    | false =>
      simp only [Bool.toNat_false, Bool.false_eq_true, if_false]
      omega
  | false =>
    cases counts new with
    | true => simp
    | false => simp

namespace Counters

/-- The counters after these outcomes, and so many frames more whose outcome is not counted yet. -/
def ofTallies (tallies : List Tally) (halfCounted : Nat) : Counters where
  frames := .ofNat (tallies.length + halfCounted)
  redirected := .ofNat (tallies.count .redirected)
  droppedUnmapped := .ofNat (tallies.count (.dropped .unmappedQueue))
  droppedUnavailable := .ofNat (tallies.count (.dropped .targetUnavailable))
  passed := .ofNat (tallies.count .passed)

theorem countFrame_ofTallies (tallies : List Tally) (halfCounted : Nat) :
    (ofTallies tallies halfCounted).countFrame = ofTallies tallies (halfCounted + 1) := by
  simp only [countFrame, ofTallies, ← Nat.add_assoc, UInt64.ofNat_add]
  rfl

theorem count_ofTallies (tallies : List Tally) (halfCounted : Nat) (tally : Tally) :
    (ofTallies tallies (halfCounted + 1)).count tally =
      ofTallies (tallies ++ [tally]) halfCounted := by
  have frames : tallies.length + (halfCounted + 1) = tallies.length + 1 + halfCounted := by omega
  rcases tally with _ | (_ | _) | _ <;>
    simp [count, ofTallies, List.count_append, UInt64.ofNat_add, frames]

theorem frames_ofTallies (tallies : List Tally) (halfCounted : Nat) :
    (ofTallies tallies halfCounted).frames = .ofNat (tallies.count .redirected) +
      .ofNat (tallies.count (.dropped .unmappedQueue)) +
      .ofNat (tallies.count (.dropped .targetUnavailable)) + .ofNat (tallies.count .passed) +
      .ofNat halfCounted := by
  rw [ofTallies, length_tallies, UInt64.ofNat_add, UInt64.ofNat_add, UInt64.ofNat_add,
    UInt64.ofNat_add]

/-- The counters are these outcomes, and so many frames more, and no word of them has wrapped. -/
structure Hold (counters : Counters) (tallies : List Tally) (halfCounted : Nat) : Prop where
  frames : counters.frames.toNat = tallies.length + halfCounted
  redirected : counters.redirected.toNat = tallies.count .redirected
  droppedUnmapped : counters.droppedUnmapped.toNat = tallies.count (.dropped .unmappedQueue)
  droppedUnavailable :
    counters.droppedUnavailable.toNat = tallies.count (.dropped .targetUnavailable)
  passed : counters.passed.toNat = tallies.count .passed
  dropped : counters.dropped.toNat =
    tallies.count (.dropped .unmappedQueue) + tallies.count (.dropped .targetUnavailable)

theorem hold_ofTallies {tallies : List Tally} {halfCounted : Nat}
    (few : tallies.length + halfCounted < 2 ^ 64) :
    (ofTallies tallies halfCounted).Hold tallies halfCounted := by
  have size := length_tallies tallies
  have small (tally : Tally) : tallies.count tally < 2 ^ 64 :=
    Nat.lt_of_le_of_lt (Nat.le_trans List.count_le_length (Nat.le_add_right ..)) few
  constructor
  case frames => exact UInt64.toNat_ofNat_of_lt few
  case redirected => exact UInt64.toNat_ofNat_of_lt (small _)
  case droppedUnmapped => exact UInt64.toNat_ofNat_of_lt (small _)
  case droppedUnavailable => exact UInt64.toNat_ofNat_of_lt (small _)
  case passed => exact UInt64.toNat_ofNat_of_lt (small _)
  case dropped =>
    rw [dropped, ofTallies, ← UInt64.ofNat_add]
    apply UInt64.toNat_ofNat_of_lt
    change _ < 2 ^ 64
    omega

/-- The account of a dispatcher with this policy, after these answers to frames and with so many
frames counted and not answered yet. -/
structure Exact (counters : Counters) (policy : MissPolicy) (answered : List (Disposition β))
    (halfCounted : Nat) : Prop where
  redirected : counters.redirected.toNat =
    (answered.map Disposition.tally).count .redirected % 2 ^ 64
  droppedUnmapped : counters.droppedUnmapped.toNat =
    (answered.map Disposition.tally).count (.dropped .unmappedQueue) % 2 ^ 64
  droppedUnavailable : counters.droppedUnavailable.toNat =
    (answered.map Disposition.tally).count (.dropped .targetUnavailable) % 2 ^ 64
  passed : counters.passed.toNat = (answered.map Disposition.tally).count .passed % 2 ^ 64
  frames : counters.frames = counters.redirected + counters.droppedUnmapped +
    counters.droppedUnavailable + counters.passed + .ofNat halfCounted
  unwrapped : answered.length + halfCounted < 2 ^ 64 →
    counters.Hold (answered.map Disposition.tally) halfCounted
  sum : answered.length + halfCounted < 2 ^ 64 →
    counters.frames.toNat = counters.redirected.toNat + counters.droppedUnmapped.toNat +
      counters.droppedUnavailable.toNat + counters.passed.toNat + halfCounted
  dropped : answered.length + halfCounted < 2 ^ 64 →
    counters.dropped.toNat = counters.droppedUnmapped.toNat + counters.droppedUnavailable.toNat
  drops : policy = .drop → counters.passed = 0 ∧ ∀ payload, .passed payload ∉ answered
  passes : policy = .pass →
    counters.droppedUnmapped = 0 ∧ .dropped .unmappedQueue ∉ answered

theorem exact_ofTallies {policy : MissPolicy} {answered : List (Disposition β)}
    (never : (answered.map Disposition.tally).count policy.never = 0) (halfCounted : Nat) :
    (ofTallies (answered.map Disposition.tally) halfCounted).Exact policy answered
      halfCounted := by
  have hold (few : answered.length + halfCounted < 2 ^ 64) :
      (ofTallies (answered.map Disposition.tally) halfCounted).Hold
        (answered.map Disposition.tally) halfCounted := by
    rw [← List.length_map Disposition.tally] at few
    exact hold_ofTallies few
  have absent {disposition : Disposition β}
      (none : (answered.map Disposition.tally).count disposition.tally = 0) :
      disposition ∉ answered :=
    fun answer => List.count_eq_zero.mp none (List.mem_map_of_mem answer)
  constructor
  case redirected => exact UInt64.toNat_ofNat'
  case droppedUnmapped => exact UInt64.toNat_ofNat'
  case droppedUnavailable => exact UInt64.toNat_ofNat'
  case passed => exact UInt64.toNat_ofNat'
  case frames => exact frames_ofTallies ..
  case unwrapped => exact hold
  case sum =>
    intro few
    rw [(hold few).frames, (hold few).redirected, (hold few).droppedUnmapped,
      (hold few).droppedUnavailable, (hold few).passed]
    exact congrArg (· + _) (length_tallies _)
  case dropped =>
    intro few
    rw [(hold few).dropped, (hold few).droppedUnmapped, (hold few).droppedUnavailable]
  case drops =>
    rintro rfl
    exact ⟨congrArg UInt64.ofNat never, fun payload => absent never⟩
  case passes =>
    rintro rfl
    exact ⟨congrArg UInt64.ofNat never, absent never⟩

end Counters

namespace Host

variable (host : Host β) (d : DispatcherId)

theorem counters_modifyDispatcher (e : DispatcherId) {change : Dispatcher → Dispatcher}
    (kept : ∀ dispatcher, (change dispatcher).counters = dispatcher.counters) :
    ((host.modifyDispatcher e change).dispatcher d).counters = (host.dispatcher d).counters := by
  rw [dispatcher_modifyDispatcher]
  split
  next both => rw [kept, both.1]
  next => rfl

theorem counters_modifyDispatcher_other {e : DispatcherId} (other : e ≠ d)
    (change : Dispatcher → Dispatcher) :
    ((host.modifyDispatcher e change).dispatcher d).counters = (host.dispatcher d).counters := by
  rw [dispatcher_modifyDispatcher, if_neg fun both => other both.1]

theorem counters_step (e : DispatcherId) (call : Call) :
    ((host.step e call).host.dispatcher d).counters = (host.dispatcher d).counters := by
  have stepped := host.steppedTo_step e call
  generalize (host.step e call).host = after at stepped ⊢
  cases stepped with
  | wrote table written => rfl
  | added handle next ring => exact host.counters_modifyDispatcher d e fun _ => rfl
  | removed handle ring => exact host.counters_modifyDispatcher d e fun _ => rfl

theorem counters_request (e : DispatcherId) (request : Request) :
    ((host.request e request).2.2.dispatcher d).counters = (host.dispatcher d).counters :=
  request_keeps (fun after => (after.dispatcher d).counters = (host.dispatcher d).counters)
    (fun after call same => (after.counters_step d e call).trans same) request rfl

theorem counters_dispatch_other {e : DispatcherId} (other : e ≠ d) (frame : Frame β) :
    ((host.dispatch e frame).2.dispatcher d).counters = (host.dispatcher d).counters := by
  rw [dispatch_eq_conclude, conclude, count, counters_modifyDispatcher_other _ d other,
    dispatcher_take, countFrame, host.counters_modifyDispatcher_other d other]

variable {host d}

theorem counters_countFrame (inside : d < host.dispatchers.length) :
    ((host.countFrame d).dispatcher d).counters = (host.dispatcher d).counters.countFrame := by
  rw [countFrame, dispatcher_modifyDispatcher, if_pos ⟨rfl, inside⟩]

theorem counters_count (inside : d < host.dispatchers.length) (tally : Tally) :
    ((host.count d tally).dispatcher d).counters = (host.dispatcher d).counters.count tally := by
  rw [count, dispatcher_modifyDispatcher, if_pos ⟨rfl, inside⟩]

theorem counters_dispatch (inside : d < host.dispatchers.length) (frame : Frame β) :
    ((host.dispatch d frame).2.dispatcher d).counters =
      (host.dispatcher d).counters.countFrame.count (host.dispatch d frame).1.tally := by
  have answer : (host.dispatch d frame).1 = host.verdict d frame :=
    congrArg Prod.fst (host.dispatch_eq d frame)
  have room : d < ((host.countFrame d).take (host.taker? d frame.queue)
      frame.payload).dispatchers.length := by
    rw [dispatchers_take, countFrame, modifyDispatcher, List.length_modify]
    exact inside
  rw [dispatch_eq_conclude, conclude, counters_count room, dispatcher_take,
    counters_countFrame inside, answer]

theorem counters_perform (host : Host β) (d : DispatcherId) {operation : Operation β}
    (other : ∀ frame, operation ≠ .dispatch d frame) :
    ((host.perform operation).host.dispatcher d).counters = (host.dispatcher d).counters := by
  cases operation with
  | request e request => exact host.counters_request d e request
  | dispatch e frame =>
    have apart : e ≠ d := fun same => other frame (same ▸ rfl)
    exact host.counters_dispatch_other d apart frame
  | table operation => rfl
  | openRing depth => rfl
  | ring id operation => rfl

end Host

def Passage.isHalfCounted : Passage β → Bool
  | counted _ => true
  | decided .. => true
  | aimed .. => true
  | settled _ => true
  | arrived _ => false
  | answered _ => false

def Passage.answer? : Passage β → Option (Disposition β)
  | settled disposition => some disposition
  | _ => none

theorem Passage.answer?_eq_some {passage : Passage β} {disposition : Disposition β} :
    passage.answer? = some disposition ↔ passage = .settled disposition := by
  cases passage <;> simp [answer?]

namespace Host

variable {host : Host β} {d : DispatcherId}

theorem pass_counts (host : Host β) (d : DispatcherId) (passage : Passage β) :
    (∃ frame, passage = .arrived frame) ∨ (∃ disposition, passage = .settled disposition) ∨
      ((host.pass d passage).1.dispatchers = host.dispatchers ∧ passage.answer? = none ∧
        (host.pass d passage).2.isHalfCounted = passage.isHalfCounted) := by
  cases passage with
  | arrived frame => exact .inl ⟨frame, rfl⟩
  | settled disposition => exact .inr (.inl ⟨disposition, rfl⟩)
  | counted frame => exact .inr (.inr ⟨rfl, rfl, rfl⟩)
  | decided decision payload =>
    right; right
    cases decision with
    | redirect handle => exact ⟨rfl, rfl, rfl⟩
    | drop => exact ⟨rfl, rfl, rfl⟩
    | pass => exact ⟨rfl, rfl, rfl⟩
  | aimed handle target payload =>
    have same : (host.offerTo handle target payload).2.dispatchers = host.dispatchers := by
      rw [offerTo_eq, dispatchers_take]
    exact .inr (.inr ⟨same, rfl, rfl⟩)
  | answered disposition => exact .inr (.inr ⟨rfl, rfl, rfl⟩)

theorem counters_pass (inside : d < host.dispatchers.length) {passage : Passage β}
    {tallies : List Tally} {before after : Nat}
    (holds : (host.dispatcher d).counters = .ofTallies tallies before)
    (moves : after + passage.isHalfCounted.toNat =
      before + (host.pass d passage).2.isHalfCounted.toNat) :
    ((host.pass d passage).1.dispatcher d).counters =
      .ofTallies (tallies ++ passage.answer?.toList.map Disposition.tally) after := by
  rcases host.pass_counts d passage with ⟨frame, rfl⟩ | ⟨disposition, rfl⟩ | ⟨same, silent, still⟩
  · obtain rfl : after = before + 1 := moves
    change ((host.countFrame d).dispatcher d).counters = .ofTallies (tallies ++ []) _
    rw [counters_countFrame inside, holds, Counters.countFrame_ofTallies, List.append_nil]
  · obtain rfl : before = after + 1 := moves.symm
    change ((host.countOutcome d disposition).dispatcher d).counters = .ofTallies (tallies ++ [_]) _
    rw [countOutcome_eq, counters_count inside, holds, Counters.count_ofTallies]
  · rw [still] at moves
    obtain rfl : after = before := Nat.add_right_cancel moves
    rw [dispatcher, same, silent]
    change (host.dispatcher d).counters = .ofTallies (tallies ++ []) _
    rw [holds, List.append_nil]

theorem counters_pass_other {e : DispatcherId} (other : e ≠ d) (passage : Passage β) :
    ((host.pass e passage).1.dispatcher d).counters = (host.dispatcher d).counters := by
  rcases host.pass_counts e passage with ⟨frame, rfl⟩ | ⟨disposition, rfl⟩ | ⟨same, -, -⟩
  · exact host.counters_modifyDispatcher_other d other _
  · exact host.counters_modifyDispatcher_other d other _
  · rw [dispatcher, same, dispatcher]

theorem policies_pass (host : Host β) (d : DispatcherId) (passage : Passage β) :
    (host.pass d passage).1.policies = host.policies := by
  rcases host.pass_counts d passage with ⟨frame, rfl⟩ | ⟨disposition, rfl⟩ | ⟨same, -, -⟩
  · exact host.policies_modifyDispatcher d _ fun _ => rfl
  · exact host.policies_modifyDispatcher d _ fun _ => rfl
  · rw [policies, same, policies]

end Host

/-- What has been decided about the frame so far is in keeping with the miss policy. -/
def Passage.Follows (miss : MissPolicy) : Passage β → Prop
  | decided decision _ => decision = miss.decision ∨ ∃ handle, decision = .redirect handle
  | settled disposition => disposition.tally ≠ miss.never
  | _ => True

namespace Host

theorem follows_pass {host : Host β} {d : DispatcherId} {passage : Passage β}
    (follows : passage.Follows (host.dispatcher d).miss) :
    (host.pass d passage).2.Follows (host.dispatcher d).miss := by
  cases passage with
  | arrived frame => trivial
  | counted frame =>
    change (host.classifier d).classifyQueue frame.queue = (host.classifier d).miss.decision ∨
      ∃ handle, (host.classifier d).classifyQueue frame.queue = .redirect handle
    rw [Classifier.classifyQueue]
    split
    next handle bound => exact .inr ⟨handle, rfl⟩
    next unbound => exact .inl rfl
  | decided decision payload =>
    rcases follows with rfl | ⟨handle, rfl⟩
    · cases miss : (host.dispatcher d).miss with
      | drop => exact Tally.noConfusion
      | pass => exact Tally.noConfusion
    · trivial
  | aimed handle target payload =>
    change (host.offerTo handle target payload).1.tally ≠ _
    rw [offerTo_eq]
    apply MissPolicy.tally_offered
  | settled disposition => trivial
  | answered disposition => trivial

end Host

namespace Scene

def halfCounted (scene : Scene β) (d : DispatcherId) : Nat :=
  scene.frames.countP fun frame => frame.1 = d && frame.2.isHalfCounted

def answer? (scene : Scene β) (d : DispatcherId) : Act β → Option (Disposition β)
  | .whole (.dispatch e frame) => if e = d then some (scene.host.dispatch e frame).1 else none
  | .proceed index =>
    scene.frames[index]?.bind fun frame => if frame.1 = d then frame.2.answer? else none
  | _ => none

def answered (scene : Scene β) (d : DispatcherId) : List (Act β) → List (Disposition β)
  | [] => []
  | act :: rest => (scene.answer? d act).toList ++ (scene.play act).2.answered d rest

def concerns (scene : Scene β) (d : DispatcherId) : Act β → Bool
  | .whole (.dispatch e _) => e = d
  | .proceed index => scene.frames[index]?.any fun frame => frame.1 = d
  | _ => false

variable {scene : Scene β} {d : DispatcherId}

theorem counters_play_other {act : Act β} (other : scene.concerns d act = false) :
    ((scene.play act).2.host.dispatcher d).counters = (scene.host.dispatcher d).counters := by
  cases act with
  | whole operation =>
    apply scene.host.counters_perform
    intro frame same
    subst same
    simp [concerns] at other
  | ask e request => rfl
  | advance index =>
    change ((scene.advance index).host.dispatcher d).counters = _
    unfold advance
    split
    next e call here => exact scene.host.counters_step d e call
    next => rfl
  | arrive e frame => rfl
  | proceed index =>
    change ((scene.proceed index).2.host.dispatcher d).counters = _
    unfold proceed
    split
    next e passage here =>
      have apart : e ≠ d := by simpa [concerns, here] using other
      exact Host.counters_pass_other apart passage
    next => rfl

def Accounted (scene : Scene β) (d : DispatcherId) (tallies : List Tally) : Prop :=
  (scene.host.dispatcher d).counters = .ofTallies tallies (scene.halfCounted d)

theorem accounted_whole {tallies : List Tally} (inside : d < scene.host.dispatchers.length)
    (holds : scene.Accounted d tallies) (operation : Host.Operation β) :
    ((scene.host.perform operation).host.dispatcher d).counters =
      .ofTallies (tallies ++ (scene.answer? d (.whole operation)).toList.map Disposition.tally)
        (scene.halfCounted d) := by
  have quiet (other : ∀ frame, operation ≠ .dispatch d frame) :
      ((scene.host.perform operation).host.dispatcher d).counters =
        .ofTallies (tallies ++ []) (scene.halfCounted d) := by
    rw [scene.host.counters_perform d other, holds, List.append_nil]
  cases operation with
  | request e request => exact quiet (by simp)
  | dispatch e frame =>
    by_cases same : e = d
    · subst same
      change ((scene.host.dispatch e frame).2.dispatcher e).counters = _
      rw [Host.counters_dispatch inside, holds, Counters.countFrame_ofTallies,
        Counters.count_ofTallies, answer?, if_pos rfl]
      rfl
    · rw [answer?, if_neg same]
      exact quiet (by simp [same])
  | table operation => exact quiet (by simp)
  | openRing depth => exact quiet (by simp)
  | ring id operation => exact quiet (by simp)

theorem accounted_proceed {tallies : List Tally} (inside : d < scene.host.dispatchers.length)
    (holds : scene.Accounted d tallies) (index : Nat) :
    (scene.proceed index).2.Accounted d
      (tallies ++ (scene.answer? d (.proceed index)).toList.map Disposition.tally) := by
  rw [answer?]
  unfold proceed
  cases here : scene.frames[index]? with
  | none =>
    rw [Option.bind_none, Option.toList_none, List.map_nil, List.append_nil]
    exact holds
  | some frame =>
    obtain ⟨e, passage⟩ := frame
    -- only the frame that moves can change how many are half counted
    have exchange := countP_set_exchange scene.frames
      (fun frame => frame.1 = d && frame.2.isHalfCounted) here
      (e, (scene.host.pass e passage).2)
    rw [Option.bind_some]
    by_cases same : e = d
    · subst same
      simp only [decide_true, Bool.true_and] at exchange
      rw [if_pos rfl]
      exact Host.counters_pass inside holds exchange
    · simp only [same, decide_false, Bool.false_and, Bool.toNat_false, Nat.add_zero] at exchange
      rw [if_neg same, Option.toList_none, List.map_nil, List.append_nil]
      exact (Host.counters_pass_other same passage).trans
        (holds.trans (congrArg (Counters.ofTallies tallies) exchange.symm))

theorem accounted_play {tallies : List Tally} (inside : d < scene.host.dispatchers.length)
    (holds : scene.Accounted d tallies) (act : Act β) :
    (scene.play act).2.Accounted d
      (tallies ++ (scene.answer? d act).toList.map Disposition.tally) := by
  have quiet {after : Scene β}
      (counters : (after.host.dispatcher d).counters = (scene.host.dispatcher d).counters)
      (half : after.halfCounted d = scene.halfCounted d) : after.Accounted d (tallies ++ []) := by
    rw [Accounted, counters, holds, half, List.append_nil]
  cases act with
  | whole operation => exact accounted_whole inside holds operation
  | ask e request => exact quiet rfl rfl
  | advance index =>
    have half : (scene.advance index).halfCounted d = scene.halfCounted d := by
      rw [halfCounted, frames_advance, halfCounted]
    have still : scene.concerns d (.advance index) = false := rfl
    exact quiet (counters_play_other still) half
  | arrive e frame =>
    have half : (scene.frames ++ [(e, Passage.arrived frame)]).countP
        (fun frame => frame.1 = d && frame.2.isHalfCounted) = scene.halfCounted d := by
      rw [List.countP_append, halfCounted]
      simp [Passage.isHalfCounted]
    exact quiet rfl half
  | proceed index => exact accounted_proceed inside holds index

theorem policies_play (scene : Scene β) (act : Act β) :
    (scene.play act).2.host.policies = scene.host.policies := by
  cases act with
  | whole operation => exact scene.host.policies_perform operation
  | ask e request => rfl
  | advance index =>
    change (scene.advance index).host.policies = _
    unfold advance
    split
    next e call here => exact scene.host.policies_step e call
    next => rfl
  | arrive e frame => rfl
  | proceed index =>
    change (scene.proceed index).2.host.policies = _
    unfold proceed
    split
    next e passage here => exact scene.host.policies_pass e passage
    next => rfl

theorem accounted_run {tallies : List Tally} (inside : d < scene.host.dispatchers.length)
    (holds : scene.Accounted d tallies) (acts : List (Act β)) :
    (scene.run acts).2.Accounted d
      (tallies ++ (scene.answered d acts).map Disposition.tally) := by
  induction acts generalizing scene tallies with
  | nil => simpa [run, answered] using holds
  | cons act rest ih =>
    have still : d < (scene.play act).2.host.dispatchers.length := by
      rw [Host.length_of_policies (scene.policies_play act)]
      exact inside
    have later := ih still (accounted_play inside holds act)
    rw [List.append_assoc] at later
    change ((scene.play act).2.run rest).2.Accounted d _
    rw [answered, List.map_append]
    exact later

structure Follows (scene : Scene β) (policies : List MissPolicy) : Prop where
  same : scene.host.policies = policies
  frames : ∀ frame ∈ scene.frames, frame.2.Follows (policies.getD frame.1 .drop)

variable {policies : List MissPolicy}

theorem Follows.miss (follows : scene.Follows policies) (d : DispatcherId) :
    (scene.host.dispatcher d).miss = policies.getD d .drop := by
  rw [Host.miss_eq, follows.same]

theorem Follows.play (follows : scene.Follows policies) (act : Act β) :
    (scene.play act).2.Follows policies := by
  refine ⟨(scene.policies_play act).trans follows.same, ?_⟩
  intro frame member
  cases act with
  | whole operation => exact follows.frames frame member
  | ask e request => exact follows.frames frame member
  | advance index =>
    change frame ∈ (scene.advance index).frames at member
    rw [frames_advance] at member
    exact follows.frames frame member
  | arrive e new =>
    rcases List.mem_append.mp member with old | added
    · exact follows.frames frame old
    · obtain rfl := List.mem_singleton.mp added
      trivial
  | proceed index =>
    change frame ∈ (scene.proceed index).2.frames at member
    unfold proceed at member
    split at member
    next e passage here =>
      rcases List.mem_or_eq_of_mem_set member with old | rfl
      · exact follows.frames frame old
      · have before := follows.frames _ (List.mem_of_getElem? here)
        rw [← follows.miss] at before ⊢
        exact Host.follows_pass before
    next => exact follows.frames frame member

theorem answer?_eq_some {act : Act β} {disposition : Disposition β}
    (answer : scene.answer? d act = some disposition) :
    (∃ frame, act = .whole (.dispatch d frame) ∧ disposition = scene.host.verdict d frame) ∨
      (d, Passage.settled disposition) ∈ scene.frames := by
  unfold answer? at answer
  split at answer
  next e frame =>
    obtain ⟨rfl, same⟩ := Option.ite_none_right_eq_some.mp answer
    rw [Host.dispatch_eq] at same
    exact .inl ⟨frame, rfl, (Option.some.inj same).symm⟩
  next index =>
    obtain ⟨⟨e, passage⟩, here, answers⟩ := Option.bind_eq_some_iff.mp answer
    obtain ⟨rfl, settles⟩ := Option.ite_none_right_eq_some.mp answers
    obtain rfl := Passage.answer?_eq_some.mp settles
    exact .inr (List.mem_of_getElem? here)
  next => cases answer

theorem Follows.answer (follows : scene.Follows policies) {act : Act β}
    {disposition : Disposition β} (answer : scene.answer? d act = some disposition) :
    disposition.tally ≠ (policies.getD d .drop).never := by
  rcases answer?_eq_some answer with ⟨frame, -, rfl⟩ | settled
  · rw [← follows.miss]
    exact scene.host.verdict_never d frame
  · exact follows.frames _ settled

theorem Follows.answered (follows : scene.Follows policies) (acts : List (Act β)) :
    ∀ disposition ∈ scene.answered d acts,
      disposition.tally ≠ (policies.getD d .drop).never := by
  induction acts generalizing scene with
  | nil => exact fun _ member => absurd member List.not_mem_nil
  | cons act rest ih =>
    intro disposition member
    rcases List.mem_append.mp member with now | later
    · exact follows.answer (Option.mem_toList.mp now)
    · exact ih (follows.play act) disposition later

theorem frames_run_of_no_arrival (none : scene.frames = []) {acts : List (Act β)}
    (whole : ∀ d frame, .arrive d frame ∉ acts) : (scene.run acts).2.frames = [] := by
  induction acts generalizing scene with
  | nil => exact none
  | cons act rest ih =>
    have later : ∀ d frame, .arrive d frame ∉ rest :=
      fun d frame member => whole d frame (List.mem_cons_of_mem act member)
    apply ih _ later
    cases act with
    | whole operation => exact none
    | ask e request => exact none
    | advance index => exact (scene.frames_advance index).trans none
    | arrive e frame => exact absurd List.mem_cons_self (whole e frame)
    | proceed index =>
      change (scene.proceed index).2.frames = []
      rw [proceed, none]
      exact none

theorem accounted_start (table : Table) {policies : List MissPolicy}
    (inside : d < policies.length) :
    ({ host := Host.start table policies } : Scene β).Accounted d [] := by
  simp [Accounted, Host.start, Host.dispatcher, inside, halfCounted]
  rfl

theorem follows_start (table : Table) (policies : List MissPolicy) :
    ({ host := Host.start table policies } : Scene β).Follows policies where
  same := Host.policies_start table policies
  frames _ member := absurd member List.not_mem_nil

end Scene

/-- The counters are an exact account: after any acts of any parties they are the numbers of the
dispatcher's answers of each kind, and nothing but its own frames moves them. Without single accesses
no frame is counted and not answered yet. -/
theorem counters_are_exact (table : Table) (policies : List MissPolicy) {d : DispatcherId}
    (inside : d < policies.length) (acts : List (Act β)) :
    let start : Scene β := { host := Host.start table policies }
    let scene := (start.run acts).2
    let counters := (scene.host.dispatcher d).counters
    counters.Exact policies[d] (start.answered d acts) (scene.halfCounted d) ∧
    ((∀ e frame, .arrive e frame ∉ acts) → scene.halfCounted d = 0) ∧
    ∀ act, scene.concerns d act = false →
      ((scene.play act).2.host.dispatcher d).counters = counters := by
  intro start scene counters
  have there : d < start.host.dispatchers.length := by
    change d < (policies.map _).length
    rw [List.length_map]
    exact inside
  have account : counters =
      .ofTallies ((start.answered d acts).map Disposition.tally) (scene.halfCounted d) :=
    Scene.accounted_run there (Scene.accounted_start table inside) acts
  have never : ((start.answered d acts).map Disposition.tally).count policies[d].never = 0 := by
    rw [List.count_eq_zero]
    intro member
    obtain ⟨disposition, answer, same⟩ := List.mem_map.mp member
    have follows := (Scene.follows_start table policies).answered acts disposition answer
    rw [List.getD_eq_getElem?_getD, List.getElem?_eq_getElem inside, Option.getD_some] at follows
    exact follows same
  refine ⟨?exact, ?whole, ?others⟩
  case exact =>
    rw [account]
    exact Counters.exact_ofTallies never _
  case whole =>
    intro whole
    rw [Scene.halfCounted, Scene.frames_run_of_no_arrival rfl whole, List.countP_nil]
  case others =>
    intro act other
    exact Scene.counters_play_other other

/-- Two dispatchers with frames for one ring of depth one; the last frame is counted and no more. -/
def mixedFrames : List (Act Nat) :=
  [.whole (.openRing 1), .whole (.request 0 (.register 0)), .whole (.request 0 (.bind ⟨3⟩ ⟨0⟩)),
    .whole (.dispatch 0 ⟨3, 1⟩), .whole (.dispatch 0 ⟨3, 2⟩), .whole (.dispatch 0 ⟨4, 3⟩),
    .whole (.dispatch 1 ⟨3, 4⟩), .whole (.dispatch 1 ⟨5, 5⟩), .arrive 0 ⟨3, 6⟩, .proceed 0]

theorem mixed_frames_are_accounted :
    let start : Scene Nat := { host := Host.start .unbound [.drop, .pass] }
    let scene := (start.run mixedFrames).2
    let counters := (scene.host.dispatcher 0).counters
    0 < [MissPolicy.drop, .pass].length ∧ scene.halfCounted 0 = 1 ∧
      (start.answered 0 mixedFrames).length + scene.halfCounted 0 < 2 ^ 64 ∧
      counters.redirected.toNat = 1 ∧ counters.droppedUnmapped.toNat = 1 ∧
      counters.droppedUnavailable.toNat = 1 ∧ counters.passed = 0 ∧ counters.frames.toNat = 4 ∧
      counters.dropped.toNat = 2 := by
  have inside : 0 < [MissPolicy.drop, .pass].length := Nat.two_pos
  have answers :
      ({ host := Host.start .unbound [.drop, .pass] } : Scene Nat).answered 0 mixedFrames =
        [.redirected ⟨0⟩, .dropped .targetUnavailable, .dropped .unmappedQueue] := by
    decide +kernel
  have half : (({ host := Host.start .unbound [.drop, .pass] } : Scene Nat).run
      mixedFrames).2.halfCounted 0 = 1 := by decide +kernel
  obtain ⟨account, -, -⟩ := counters_are_exact .unbound [.drop, .pass] inside mixedFrames
  rw [answers, half] at account
  have hold := account.unwrapped (by decide)
  dsimp only
  rw [answers, half, hold.frames, hold.dropped, hold.redirected, hold.droppedUnmapped,
    hold.droppedUnavailable, (account.drops rfl).1]
  decide

end RxSteering
