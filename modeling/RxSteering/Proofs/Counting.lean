import Mathlib.Data.List.Perm.Basic
import RxSteering.Proofs.FrameOutcome
import RxSteering.Proofs.Reachability

/-!
How frames are counted. An outcome is counted by its kind alone, the order in which frames and
outcomes are counted makes no difference, and what becomes of a frame does not depend on the
counters.
-/
namespace RxSteering

variable {β : Type}

inductive Tally where
  | redirected
  | dropped (reason : DropReason)
  | passed
  deriving DecidableEq, Repr

def Disposition.tally : Disposition β → Tally
  | redirected _ => .redirected
  | dropped reason => .dropped reason
  | passed _ => .passed

/-- The outcome that no frame has under this policy. -/
def MissPolicy.never : MissPolicy → Tally
  | drop => .passed
  | pass => .dropped .unmappedQueue

theorem MissPolicy.tally_disposition (miss : MissPolicy) (payload : β) :
    (miss.disposition payload).tally ≠ miss.never := by
  cases miss with
  | drop => exact Tally.noConfusion
  | pass => exact Tally.noConfusion

theorem MissPolicy.tally_offered (miss : MissPolicy) (taken : Bool) (handle : SocketHandle) :
    (if taken then .redirected handle else .dropped .targetUnavailable : Disposition β).tally ≠
      miss.never := by
  cases taken <;> cases miss <;> simp [Disposition.tally, never]

namespace Counters

def count (counters : Counters) : Tally → Counters
  | .redirected => { counters with redirected := counters.redirected + 1 }
  | .dropped .unmappedQueue => { counters with droppedUnmapped := counters.droppedUnmapped + 1 }
  | .dropped .targetUnavailable =>
    { counters with droppedUnavailable := counters.droppedUnavailable + 1 }
  | .passed => { counters with passed := counters.passed + 1 }

theorem countOutcome_eq (counters : Counters) (disposition : Disposition β) :
    counters.countOutcome disposition = counters.count disposition.tally := by
  cases disposition with
  | redirected handle => rfl
  | dropped reason =>
    cases reason with
    | unmappedQueue => rfl
    | targetUnavailable => rfl
  | passed payload => rfl

theorem countFrame_count (counters : Counters) (tally : Tally) :
    (counters.countFrame).count tally = (counters.count tally).countFrame := by
  cases tally with
  | redirected => rfl
  | dropped reason =>
    cases reason with
    | unmappedQueue => rfl
    | targetUnavailable => rfl
  | passed => rfl

theorem count_comm (counters : Counters) (one other : Tally) :
    (counters.count one).count other = (counters.count other).count one := by
  rcases one with _ | (_ | _) | _ <;> rcases other with _ | (_ | _) | _ <;> rfl

end Counters

namespace Host

variable {host : Host β} {d : DispatcherId}

def count (host : Host β) (d : DispatcherId) (tally : Tally) : Host β :=
  host.modifyDispatcher d fun dispatcher =>
    { dispatcher with counters := dispatcher.counters.count tally }

def countAll (host : Host β) (d : DispatcherId) (tallies : List Tally) : Host β :=
  tallies.foldl (fun host tally => host.count d tally) host

def countFrames (host : Host β) (d : DispatcherId) : Nat → Host β
  | 0 => host
  | n + 1 => (host.countFrames d n).countFrame d

theorem countOutcome_eq (host : Host β) (d : DispatcherId) (disposition : Disposition β) :
    host.countOutcome d disposition = host.count d disposition.tally := by
  simp only [countOutcome, count, Counters.countOutcome_eq]

theorem modifyDispatcher_comm (host : Host β) (d : DispatcherId)
    {one other : Dispatcher → Dispatcher}
    (comm : ∀ dispatcher, other (one dispatcher) = one (other dispatcher)) :
    (host.modifyDispatcher d one).modifyDispatcher d other =
      (host.modifyDispatcher d other).modifyDispatcher d one := by
  have same : other ∘ one = one ∘ other := funext comm
  simp only [modifyDispatcher, List.modify_modify_eq, same]

theorem count_comm (host : Host β) (d : DispatcherId) (one other : Tally) :
    (host.count d one).count d other = (host.count d other).count d one := by
  apply host.modifyDispatcher_comm d
  intro dispatcher
  simp only [Counters.count_comm]

theorem count_countFrame (host : Host β) (d : DispatcherId) (tally : Tally) :
    (host.countFrame d).count d tally = (host.count d tally).countFrame d := by
  apply host.modifyDispatcher_comm d
  intro dispatcher
  simp only [Counters.countFrame_count]

theorem count_take (host : Host β) (d : DispatcherId) (taker : Option RingId) (payload : β)
    (tally : Tally) :
    (host.take taker payload).count d tally = (host.count d tally).take taker payload := by
  cases taker with
  | none => rfl
  | some id => rfl

/-- What can be done before or after one count can be done before or after all of them. -/
theorem countAll_comm {change : Host β → Host β}
    (comm : ∀ host tally, (change host).count d tally = change (host.count d tally))
    (host : Host β) (tallies : List Tally) :
    (change host).countAll d tallies = change (host.countAll d tallies) := by
  induction tallies generalizing host with
  | nil => rfl
  | cons tally rest ih =>
    change ((change host).count d tally).countAll d rest =
      change ((host.count d tally).countAll d rest)
    rw [comm, ih]

theorem countFrames_comm {change : Host β → Host β}
    (comm : ∀ host, (change host).countFrame d = change (host.countFrame d))
    (host : Host β) (n : Nat) : (change host).countFrames d n = change (host.countFrames d n) := by
  induction n with
  | zero => rfl
  | succ n ih => rw [countFrames, countFrames, ih, comm]

theorem countFrames_countFrame (host : Host β) (d : DispatcherId) (n : Nat) :
    (host.countFrame d).countFrames d n = host.countFrames d (n + 1) := by
  have comm (host : Host β) :
      (host.countFrame d).countFrame d = (host.countFrame d).countFrame d := rfl
  rw [countFrames_comm comm, countFrames]

theorem countAll_of_perm {tallies others : List Tally} (same : tallies.Perm others)
    (host : Host β) (d : DispatcherId) : host.countAll d tallies = host.countAll d others :=
  same.foldl_eq' (fun one _ other _ host => host.count_comm d one other) host

/-- The host once this ring, if any, has taken the payload in and the outcome is counted. -/
def conclude (host : Host β) (d : DispatcherId) (taker : Option RingId) (payload : β)
    (tally : Tally) : Host β :=
  (host.take taker payload).count d tally

theorem dispatchers_conclude (host : Host β) (d : DispatcherId) (taker : Option RingId)
    (payload : β) (tally : Tally) :
    (host.conclude d taker payload tally).dispatchers = (host.count d tally).dispatchers := by
  rw [conclude, count_take, dispatchers_take]

theorem countAll_conclude (host : Host β) (d : DispatcherId) (taker : Option RingId) (payload : β)
    (tally : Tally) (tallies : List Tally) :
    (host.conclude d taker payload tally).countAll d tallies =
      (host.countAll d tallies).conclude d taker payload tally := by
  have comm (host : Host β) (other : Tally) : (host.conclude d taker payload tally).count d other =
      (host.count d other).conclude d taker payload tally := by
    rw [conclude, count_comm, count_take, conclude]
  exact countAll_comm comm host tallies

theorem countFrames_conclude (host : Host β) (d : DispatcherId) (taker : Option RingId)
    (payload : β) (tally : Tally) (n : Nat) :
    (host.conclude d taker payload tally).countFrames d n =
      (host.countFrames d n).conclude d taker payload tally := by
  have comm (host : Host β) : (host.conclude d taker payload tally).countFrame d =
      (host.countFrame d).conclude d taker payload tally := by
    rw [conclude, ← count_countFrame, ← take_countFrame, conclude]
  exact countFrames_comm comm host n

theorem dispatch_eq_conclude (host : Host β) (d : DispatcherId) (frame : Frame β) :
    (host.dispatch d frame).2 =
      (host.countFrame d).conclude d (host.taker? d frame.queue) frame.payload
        (host.verdict d frame).tally := by
  rw [dispatch_eq, countAs, countOutcome_eq, ← take_countFrame, conclude]

theorem verdict_never (host : Host β) (d : DispatcherId) (frame : Frame β) :
    (host.verdict d frame).tally ≠ (host.dispatcher d).miss.never := by
  cases bound : host.table.lookup frame.queue with
  | none =>
    rw [verdict_of_unbound bound]
    exact (host.dispatcher d).miss.tally_disposition frame.payload
  | some handle =>
    rw [verdict_of_bound bound]
    apply MissPolicy.tally_offered

/-- Two hosts that differ at most in their rings and their counters. -/
structure Alike (a b : Host β) : Prop where
  table : a.table = b.table
  sockets : a.sockets = b.sockets
  policies : a.policies = b.policies

namespace Alike

variable {a b c : Host β} {queue : QueueId}

theorem refl (host : Host β) : host.Alike host := ⟨rfl, rfl, rfl⟩

theorem symm (alike : a.Alike b) : b.Alike a :=
  ⟨alike.table.symm, alike.sockets.symm, alike.policies.symm⟩

theorem trans (first : a.Alike b) (second : b.Alike c) : a.Alike c :=
  ⟨first.table.trans second.table, first.sockets.trans second.sockets,
    first.policies.trans second.policies⟩

theorem classifyQueue (alike : a.Alike b) (d : DispatcherId) (queue : QueueId) :
    (a.classifier d).classifyQueue queue = (b.classifier d).classifyQueue queue := by
  rw [classifier, classifier, alike.table, miss_of_policies alike.policies d]

theorem target? (alike : a.Alike b) (d : DispatcherId) (queue : QueueId) :
    a.target? d queue = b.target? d queue := by
  have leads : a.socket? d = b.socket? d := funext (socket?_of_sockets alike.sockets d)
  rw [Host.target?, Host.target?, alike.table, leads]

theorem taker? (alike : a.Alike b)
    (same : ∀ id, b.target? d queue = some id → a.ring id = b.ring id) :
    a.taker? d queue = b.taker? d queue := by
  rw [Host.taker?, Host.taker?, alike.target?]
  cases aims : b.target? d queue with
  | none => rfl
  | some id => rw [Option.filter_some, Option.filter_some, same id aims]

theorem verdict (alike : a.Alike b) {frame : Frame β}
    (same : a.taker? d frame.queue = b.taker? d frame.queue) :
    a.verdict d frame = b.verdict d frame := by
  rw [Host.verdict, Host.verdict, alike.table, miss_of_policies alike.policies d, same]

end Alike

theorem alike_count (host : Host β) (d : DispatcherId) (tally : Tally) :
    (host.count d tally).Alike host where
  table := rfl
  sockets := host.sockets_modifyDispatcher d _ fun _ => ⟨rfl, rfl⟩
  policies := host.policies_modifyDispatcher d _ fun _ => rfl

theorem alike_countFrame (host : Host β) (d : DispatcherId) : (host.countFrame d).Alike host where
  table := rfl
  sockets := host.sockets_countFrame d
  policies := host.policies_modifyDispatcher d _ fun _ => rfl

theorem alike_dispatch (host : Host β) (d : DispatcherId) (frame : Frame β) :
    (host.dispatch d frame).2.Alike host where
  table := host.table_dispatch d frame
  sockets := host.sockets_dispatch d frame
  policies := host.policies_perform (.dispatch d frame)

theorem countAll_keeps (host : Host β) (d : DispatcherId) (tallies : List Tally) :
    (host.countAll d tallies).Alike host ∧ (host.countAll d tallies).rings = host.rings := by
  induction tallies generalizing host with
  | nil => exact ⟨.refl host, rfl⟩
  | cons tally rest ih =>
    obtain ⟨alike, rings⟩ := ih (host.count d tally)
    exact ⟨alike.trans (host.alike_count d tally), rings⟩

theorem countFrames_keeps (host : Host β) (d : DispatcherId) (n : Nat) :
    (host.countFrames d n).Alike host ∧ (host.countFrames d n).rings = host.rings := by
  induction n with
  | zero => exact ⟨.refl host, rfl⟩
  | succ n ih => exact ⟨(alike_countFrame _ d).trans ih.1, ih.2⟩

end Host
end RxSteering
