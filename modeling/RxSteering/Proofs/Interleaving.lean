import RxSteering.Proofs.Reachability

/-!
Any number of calls on one dispatcher at the same time, taking their steps in any order. A queue
may be bound to a socket that is gone, but then some call still owes the clearing of that queue: a
bind past its write, or a teardown that has yet to read or to clear the queue. Once no such call is
left, every bound socket is live.
-/
namespace RxSteering

variable {β : Type}

structure Traffic (β : Type) where
  host : Host β
  calls : List Call

/-- What happens next: a call comes in, or one of the calls takes its next step. A registration may
also take any handle that is not live, as if the counter had come round to it. -/
inductive Turn where
  | ask (request : Request)
  | advance (index : Nat)
  | enroll (index : Nat) (handle : SocketHandle) (next : UInt32)
  deriving DecidableEq, Repr

def Progress.pending : Progress → List Call
  | ongoing call => [call]
  | finished _ => []

namespace Traffic

def start (table : Table) (miss : MissPolicy) : Traffic β := ⟨Host.start table [miss], []⟩

def replace (traffic : Traffic β) (index : Nat) (pending : List Call) : List Call :=
  traffic.calls.take index ++ pending ++ traffic.calls.drop (index + 1)

def advance (traffic : Traffic β) (index : Nat) : Traffic β :=
  match traffic.calls[index]? with
  | none => traffic
  | some call =>
    let step := traffic.host.step 0 call
    ⟨step.host, traffic.replace index step.progress.pending⟩

def enroll (traffic : Traffic β) (index : Nat) (handle : SocketHandle) (next : UInt32) :
    Traffic β :=
  match traffic.calls[index]? with
  | some (.asked (.register ring)) =>
    if traffic.host.isRegistered 0 handle then traffic
    else ⟨traffic.host.addSocket 0 handle next ring, traffic.replace index []⟩
  | _ => traffic

def take (traffic : Traffic β) : Turn → Traffic β
  | .ask request => { traffic with calls := traffic.calls ++ [.asked request] }
  | .advance index => traffic.advance index
  | .enroll index handle next => traffic.enroll index handle next

def run (traffic : Traffic β) (turns : List Turn) : Traffic β := turns.foldl take traffic

end Traffic

/-- The call has yet to clear the queue if it finds it bound to the socket. -/
def Call.Owes (queue : QueueId) (handle : SocketHandle) : Call → Prop
  | asked _ => False
  | publish .. => False
  | confirm owed gone _ => owed = queue ∧ gone = handle
  | retract owed gone => owed = queue ∧ gone = handle
  | scan gone ahead found => gone = handle ∧ (queue ∈ ahead ∨ queue ∈ found)
  | sweep gone owed => gone = handle ∧ queue ∈ owed

def Call.isChange : Call → Bool
  | asked (.register _) => false
  | asked (.unbind _) => false
  | _ => true

theorem Call.not_owes_of_not_isChange {call : Call} (other : call.isChange = false)
    (queue : QueueId) (handle : SocketHandle) : ¬ call.Owes queue handle := by
  cases call with
  | asked request => exact id
  | publish queue handle => exact id
  | confirm queue handle previous => cases other
  | retract queue handle => cases other
  | scan handle ahead found => cases other
  | sweep handle owed => cases other

namespace Host

theorem bound_of_abandon {host : Host β} (canonical : host.table.Canonical)
    {cleared queue : QueueId} {gone handle : SocketHandle} {progress : Progress}
    (bound : (host.abandon cleared gone progress).host.table.lookup queue = some handle) :
    host.table.lookup queue = some handle ∧ ¬ (cleared = queue ∧ gone = handle) := by
  rw [host_abandon canonical] at bound
  change (host.table.release cleared gone).lookup queue = some handle at bound
  have kept := bound
  rw [Table.lookup_release] at kept
  split at kept
  · cases kept
  · refine ⟨kept, ?_⟩
    rintro ⟨rfl, rfl⟩
    exact Table.lookup_release_ne host.table cleared gone bound

theorem isRegistered_addSocket {host : Host β} {d : DispatcherId} {handle : SocketHandle}
    (live : host.isRegistered d handle = true) (added : SocketHandle) (next : UInt32)
    (ring : RingId) : (host.addSocket d added next ring).isRegistered d handle = true := by
  obtain ⟨target, leads⟩ := isRegistered_iff.mp live
  rw [isRegistered_iff, host.socket?_addSocket added next ring (inside_of_socket? leads)]
  split
  · exact ⟨ring, rfl⟩
  · exact ⟨target, leads⟩

theorem isRegistered_removeSocket {host : Host β} {d : DispatcherId} {handle gone : SocketHandle}
    (live : host.isRegistered d handle = true) (apart : gone ≠ handle) (ring : RingId) :
    (host.removeSocket d gone ring).isRegistered d handle = true := by
  obtain ⟨target, leads⟩ := isRegistered_iff.mp live
  rw [isRegistered_iff, host.socket?_removeSocket ring (inside_of_socket? leads), if_neg apart]
  exact ⟨target, leads⟩

/-- Why a binding may stand after a step of a call: its socket is live, what is left of the call
owes its clearing, or it stood before and the call did not owe it. -/
def Stands (host : Host β) (d : DispatcherId) (call : Call) (stepped : Step β) (queue : QueueId)
    (handle : SocketHandle) : Prop :=
  stepped.host.isRegistered d handle = true ∨
  (∃ next ∈ stepped.progress.pending, next.Owes queue handle) ∨
  (host.table.lookup queue = some handle ∧ host.isRegistered d handle = false ∧
    ¬ call.Owes queue handle)

variable {host : Host β} {d : DispatcherId} {queue : QueueId} {handle : SocketHandle}

theorem stands_of_same {call : Call} {stepped : Step β}
    (bound : host.table.lookup queue = some handle) (clear : ¬ call.Owes queue handle)
    (live : host.isRegistered d handle = true → stepped.host.isRegistered d handle = true) :
    host.Stands d call stepped queue handle := by
  cases registered : host.isRegistered d handle with
  | true => exact .inl (live registered)
  | false => exact .inr (.inr ⟨bound, registered, clear⟩)

theorem stands_register (ring : RingId)
    (bound : (host.register d ring).host.table.lookup queue = some handle) :
    host.Stands d (.asked (.register ring)) (host.register d ring) queue handle := by
  cases search : (host.dispatcher d).registry.fresh? (host.dispatcher d).nextHandle with
  | none =>
    rw [register_full search] at bound ⊢
    exact stands_of_same bound id id
  | some found =>
    obtain ⟨added, next⟩ := found
    rw [register_found search] at bound ⊢
    exact stands_of_same bound id fun live => isRegistered_addSocket live added next ring

theorem stands_beginUnregister {gone : SocketHandle}
    (bound : (host.beginUnregister d gone).host.table.lookup queue = some handle) :
    host.Stands d (.asked (.unregister gone)) (host.beginUnregister d gone) queue handle := by
  cases seen : host.socket? d gone with
  | none =>
    rw [beginUnregister_unknown seen] at bound ⊢
    exact stands_of_same bound id id
  | some ring =>
    rw [beginUnregister_live seen] at bound ⊢
    by_cases same : gone = handle
    · have listed : queue ∈ host.table.queues := Table.mem_queues.mpr (Table.inside_of_lookup bound)
      exact .inr (.inl ⟨_, List.mem_singleton_self _, same, .inl listed⟩)
    · exact stands_of_same bound id fun live => isRegistered_removeSocket live same ring

theorem stands_publish {target : QueueId} {socket : SocketHandle}
    (bound : (host.publish target socket).host.table.lookup queue = some handle) :
    host.Stands d (.publish target socket) (host.publish target socket) queue handle := by
  rcases Nat.lt_or_ge target.index.toNat host.table.slots.length with inside | outside
  · rw [publish_inside inside] at bound ⊢
    change (host.table.put target (.bound socket)).lookup queue = some handle at bound
    rw [Table.lookup_put_inside inside, Slot.binding?_bound] at bound
    split at bound
    next same =>
      cases bound
      exact .inr (.inl ⟨_, List.mem_singleton_self _, same, rfl⟩)
    next => exact stands_of_same bound id id
  · rw [publish_outside outside] at bound ⊢
    exact stands_of_same bound id id

theorem stands_confirm {target : QueueId} {socket : SocketHandle} {previous : Option SocketHandle}
    (bound : (host.confirm d target socket previous).host.table.lookup queue = some handle) :
    host.Stands d (.confirm target socket previous) (host.confirm d target socket previous) queue
      handle := by
  cases live : host.isRegistered d socket with
  | true =>
    rw [confirm_live live] at bound ⊢
    by_cases same : socket = handle
    · exact .inl (same ▸ live)
    · exact stands_of_same bound (fun owed => same owed.2) id
  | false =>
    rw [confirm_gone live] at bound ⊢
    by_cases owed : target = queue ∧ socket = handle
    · exact .inr (.inl ⟨_, List.mem_singleton_self _, owed⟩)
    · exact stands_of_same bound owed id

theorem stands_unbind {target : QueueId}
    (bound : (host.unbind target).host.table.lookup queue = some handle) :
    host.Stands d (.asked (.unbind target)) (host.unbind target) queue handle := by
  rcases Nat.lt_or_ge target.index.toNat host.table.slots.length with inside | outside
  · rw [unbind_inside inside] at bound ⊢
    change (host.table.put target .empty).lookup queue = some handle at bound
    rw [Table.lookup_put_inside inside, Slot.binding?_empty] at bound
    split at bound
    · cases bound
    · exact stands_of_same bound id id
  · rw [unbind_outside outside] at bound ⊢
    exact stands_of_same bound id id

theorem stands_scan {gone : SocketHandle} {ahead found : List QueueId}
    (bound : (host.step d (.scan gone ahead found)).host.table.lookup queue = some handle) :
    host.Stands d (.scan gone ahead found) (host.step d (.scan gone ahead found)) queue handle := by
  cases ahead with
  | nil =>
    change host.table.lookup queue = some handle at bound
    by_cases owed : gone = handle ∧ queue ∈ found
    · exact .inr (.inl ⟨_, List.mem_singleton_self _, owed⟩)
    · refine stands_of_same bound ?_ id
      rintro ⟨same, member | member⟩
      · cases member
      · exact owed ⟨same, member⟩
  | cons next ahead =>
    change host.table.lookup queue = some handle at bound
    by_cases owed : gone = handle ∧ (queue ∈ next :: ahead ∨ queue ∈ found)
    · obtain ⟨rfl, member⟩ := owed
      refine .inr (.inl ⟨_, List.mem_singleton_self _, rfl, ?_⟩)
      rcases member with member | member
      · rcases List.mem_cons.mp member with rfl | member
        · rw [if_pos bound]
          exact .inr (by simp)
        · exact .inl member
      · right
        split
        · exact List.mem_append_left _ member
        · exact member
    · exact stands_of_same bound owed id

theorem stands_sweep (canonical : host.table.Canonical) {gone : SocketHandle} {owed : List QueueId}
    (bound : (host.step d (.sweep gone owed)).host.table.lookup queue = some handle) :
    host.Stands d (.sweep gone owed) (host.step d (.sweep gone owed)) queue handle := by
  cases owed with
  | nil => exact stands_of_same bound (fun owed => List.not_mem_nil owed.2) id
  | cons next owed =>
    obtain ⟨before, apart⟩ := bound_of_abandon canonical bound
    have same : (host.step d (.sweep gone (next :: owed))).host.isRegistered d handle =
        host.isRegistered d handle := by
      change (host.abandon next gone _).host.isRegistered d handle = _
      rw [host_abandon canonical]
      rfl
    by_cases later : gone = handle ∧ queue ∈ owed
    · refine .inr (.inl ⟨.sweep gone owed, ?_, later⟩)
      change Call.sweep gone owed ∈ (host.abandon next gone _).progress.pending
      rw [progress_abandon]
      exact List.mem_singleton_self _
    · refine stands_of_same before ?_ same.trans
      rintro ⟨rfl, member⟩
      rcases List.mem_cons.mp member with rfl | member
      · exact apart ⟨rfl, rfl⟩
      · exact later ⟨rfl, member⟩

theorem stands_retract (canonical : host.table.Canonical) {target : QueueId}
    {socket : SocketHandle}
    (bound : (host.step d (.retract target socket)).host.table.lookup queue = some handle) :
    host.Stands d (.retract target socket) (host.step d (.retract target socket)) queue handle := by
  obtain ⟨before, apart⟩ := bound_of_abandon canonical bound
  refine stands_of_same before apart ?_
  intro live
  change (host.abandon target socket _).host.isRegistered d handle = true
  rw [host_abandon canonical]
  exact live

theorem stands_step (canonical : host.table.Canonical) (call : Call)
    (bound : (host.step d call).host.table.lookup queue = some handle) :
    host.Stands d call (host.step d call) queue handle := by
  cases call with
  | asked request =>
    cases request with
    | register ring => exact stands_register ring bound
    | unregister gone => exact stands_beginUnregister bound
    | bind target socket =>
      refine stands_of_same bound id ?_
      exact id
    | unbind target => exact stands_unbind bound
  | publish target socket => exact stands_publish bound
  | confirm target socket previous => exact stands_confirm bound
  | retract target socket => exact stands_retract canonical bound
  | scan gone ahead found => exact stands_scan bound
  | sweep gone owed => exact stands_sweep canonical bound

end Host

namespace Traffic

theorem mem_replace_of_pending {traffic : Traffic β} {index : Nat} {pending : List Call}
    {call : Call} (member : call ∈ pending) : call ∈ traffic.replace index pending :=
  List.mem_append_left _ (List.mem_append_right _ member)

theorem eq_or_mem_replace {traffic : Traffic β} {index : Nat} {chosen call : Call}
    (here : traffic.calls[index]? = some chosen) (member : call ∈ traffic.calls)
    (pending : List Call) : call = chosen ∨ call ∈ traffic.replace index pending := by
  obtain ⟨inside, same⟩ := List.getElem?_eq_some_iff.mp here
  have split : traffic.calls =
      traffic.calls.take index ++ chosen :: traffic.calls.drop (index + 1) := by
    rw [← same, List.getElem_cons_drop, List.take_append_drop]
  rw [split] at member
  rcases List.mem_append.mp member with before | member
  · exact .inr (List.mem_append_left _ (List.mem_append_left _ before))
  · rcases List.mem_cons.mp member with same | after
    · exact .inl same
    · exact .inr (List.mem_append_right _ after)

/-- Every bound socket is live, or some call owes the clearing of its queue. -/
structure Covered (traffic : Traffic β) : Prop where
  canonical : traffic.host.table.Canonical
  covers : ∀ queue handle, traffic.host.table.lookup queue = some handle →
    traffic.host.isRegistered 0 handle = true ∨ ∃ call ∈ traffic.calls, call.Owes queue handle

variable {traffic : Traffic β}

theorem Covered.advance (covered : traffic.Covered) (index : Nat) :
    (traffic.advance index).Covered := by
  unfold Traffic.advance
  cases here : traffic.calls[index]? with
  | none => exact covered
  | some call =>
    refine ⟨(Host.writtenTo_step 0 traffic.host call).canonical covered.canonical, ?_⟩
    intro queue handle bound
    rcases Host.stands_step covered.canonical call bound with live | owed | kept
    · exact .inl live
    · obtain ⟨next, left, owes⟩ := owed
      exact .inr ⟨next, mem_replace_of_pending left, owes⟩
    · -- the binding was owed before the step, by another call than the one that took it
      obtain ⟨before, gone, clear⟩ := kept
      rcases covered.covers queue handle before with live | ⟨other, member, owes⟩
      · rw [gone] at live
        cases live
      · rcases eq_or_mem_replace here member (traffic.host.step 0 call).progress.pending with
          rfl | stays
        · exact absurd owes clear
        · exact .inr ⟨other, stays, owes⟩

/-- Any handle that is not live may be given out, also one that calls still owe queues of. -/
theorem Covered.enroll (covered : traffic.Covered) (index : Nat) (handle : SocketHandle)
    (next : UInt32) : (traffic.enroll index handle next).Covered := by
  unfold Traffic.enroll
  split
  next ring here =>
    split
    · exact covered
    · refine ⟨covered.canonical, ?_⟩
      intro queue other bound
      rcases covered.covers queue other bound with live | ⟨call, member, owes⟩
      · exact .inl (Host.isRegistered_addSocket live handle next ring)
      · rcases eq_or_mem_replace here member [] with rfl | stays
        · cases owes
        · exact .inr ⟨call, stays, owes⟩
  next => exact covered

theorem Covered.take (covered : traffic.Covered) (turn : Turn) : (traffic.take turn).Covered := by
  cases turn with
  | ask request =>
    refine ⟨covered.canonical, ?_⟩
    intro queue handle bound
    rcases covered.covers queue handle bound with live | ⟨call, member, owes⟩
    · exact .inl live
    · exact .inr ⟨call, List.mem_append_left _ member, owes⟩
  | advance index => exact covered.advance index
  | enroll index handle next => exact covered.enroll index handle next

theorem Covered.start {capacity : UInt32} {table : Table}
    (made : Table.ofCapacity capacity = .ok table) (miss : MissPolicy) :
    (Traffic.start table miss : Traffic β).Covered where
  canonical := Table.Canonical.ofCapacity made
  covers queue handle bound := by
    change table.lookup queue = some handle at bound
    rw [Table.lookup_ofCapacity made] at bound
    cases bound

theorem Covered.run (covered : traffic.Covered) (turns : List Turn) :
    (traffic.run turns).Covered := by
  induction turns generalizing traffic with
  | nil => exact covered
  | cons turn rest ih => exact ih (covered.take turn)

end Traffic

/-- However the calls were interleaved: when no bind and no teardown is in progress, every bound
socket is live. -/
theorem bound_is_registered_when_settled {capacity : UInt32} {table : Table}
    (made : Table.ofCapacity capacity = .ok table) (miss : MissPolicy) (turns : List Turn)
    (settled : ∀ call ∈ ((Traffic.start table miss : Traffic β).run turns).calls,
      call.isChange = false)
    (queue : QueueId) (handle : SocketHandle)
    (bound : ((Traffic.start table miss : Traffic β).run turns).host.table.lookup queue =
      some handle) :
    ((Traffic.start table miss : Traffic β).run turns).host.isRegistered 0 handle = true := by
  have covered := (Traffic.Covered.start (β := β) made miss).run turns
  rcases covered.covers queue handle bound with live | ⟨call, member, owes⟩
  · exact live
  · exact absurd owes (call.not_owes_of_not_isChange (settled call member) queue handle)

/-- A bind that is overtaken by the teardown of its socket, whose handle is then given out again. -/
def overtaken : List Turn :=
  [.ask (.register 0), .advance 0, .ask (.bind ⟨0⟩ ⟨0⟩), .ask (.unregister ⟨0⟩),
    .ask (.register 1), .advance 0, .advance 1, .advance 1, .advance 1, .advance 1,
    .enroll 1 ⟨0⟩ 1, .advance 0, .advance 0]

theorem bound_is_registered_after_overtaken :
    ∃ table, Table.ofCapacity 1 = .ok table ∧
      ((Traffic.start table .drop : Traffic Nat).run overtaken).calls = [] ∧
      ((Traffic.start table .drop : Traffic Nat).run overtaken).host.table.lookup ⟨0⟩ =
        some ⟨0⟩ ∧
      ((Traffic.start table .drop : Traffic Nat).run overtaken).host.isRegistered 0 ⟨0⟩ = true := by
  have made : Table.ofCapacity 1 = .ok ⟨[.empty], by decide, by decide⟩ := rfl
  have ended : ((Traffic.start ⟨[.empty], by decide, by decide⟩ .drop : Traffic Nat).run
      overtaken).calls = [] := by decide
  have bound : ((Traffic.start ⟨[.empty], by decide, by decide⟩ .drop : Traffic Nat).run
      overtaken).host.table.lookup ⟨0⟩ = some ⟨0⟩ := by decide
  refine ⟨_, made, ended, bound, ?_⟩
  refine bound_is_registered_when_settled made .drop overtaken ?_ ⟨0⟩ ⟨0⟩ bound
  rw [ended]
  simp

end RxSteering
