import RxSteering.Proofs.Reachability

/-!
Work that runs in the middle of a teardown, against the same work on a host where the socket's
queues were cleared at once. The sockets are the same on both sides, and the tables differ in
nothing but the queues that the teardown still owes. Every task keeps it so, also a teardown of
another socket with interludes of its own, because it meets the same bindings of that socket on
both sides.
-/
namespace RxSteering

variable {β : Type}

/-- A whole call or a frame through one dispatcher. A teardown has interludes: tasks to run right
after each of its records. -/
inductive Task (β : Type) where
  | register (ring : RingId)
  | bind (queue : QueueId) (handle : SocketHandle)
  | unbind (queue : QueueId)
  | dispatch (frame : Frame β)
  | unregister (handle : SocketHandle) (interludes : List (List (Task β)))

def Task.whole (d : DispatcherId) (request : Request) (state : Host β × List Outcome) :
    Host β × List Outcome :=
  ((state.1.request d request).2.2, state.2 ++ [(state.1.request d request).1])

mutual

def Task.run (d : DispatcherId) : Task β → Interruption β (List Outcome)
  | .register ring => Task.whole d (.register ring)
  | .bind queue handle => Task.whole d (.bind queue handle)
  | .unbind queue => Task.whole d (.unbind queue)
  | .dispatch frame => fun state => ((state.1.dispatch d frame).2, state.2)
  | .unregister handle interludes => fun state =>
    let completion :=
      Host.resume d (.asked (.unregister handle)) state (Task.interruptions d interludes)
    (completion.state.1, completion.state.2 ++ [completion.outcome])

def Task.runAll (d : DispatcherId) : List (Task β) → Interruption β (List Outcome)
  | [] => id
  | task :: rest => fun state => Task.runAll d rest (task.run d state)

def Task.interruptions (d : DispatcherId) :
    List (List (Task β)) → List (Interruption β (List Outcome))
  | [] => []
  | tasks :: rest => Task.runAll d tasks :: Task.interruptions d rest

end

theorem Task.runAll_append (d : DispatcherId) (first second : List (Task β))
    (state : Host β × List Outcome) :
    runAll d (first ++ second) state = runAll d second (runAll d first state) := by
  induction first generalizing state with
  | nil => simp only [List.nil_append, runAll, id]
  | cons task rest ih =>
    rw [List.cons_append, runAll, runAll]
    exact ih (task.run d state)

/-- The real host in the middle of a teardown of `handle`, and the ideal one where its queues were
cleared at once; no queue but the `owed` ones is still bound to it. -/
structure Mirrors (d : DispatcherId) (handle : SocketHandle) (owed : List QueueId)
    (real ideal : Host β) : Prop where
  inside : d < real.dispatchers.length
  canonical : real.table.Canonical
  gone : real.socket? d handle = none
  owes : ∀ queue, real.table.lookup queue = some handle → queue ∈ owed
  table : ideal.table = real.table.clearSocket handle
  sockets : ideal.sockets = real.sockets

namespace Mirrors

variable {d : DispatcherId} {handle : SocketHandle} {owed : List QueueId} {real ideal : Host β}

theorem ideal_canonical (mirrors : Mirrors d handle owed real ideal) :
    ideal.table.Canonical := by
  rw [mirrors.table]
  exact mirrors.canonical.clearSocket handle

theorem socket?_eq (mirrors : Mirrors d handle owed real ideal) (other : SocketHandle) :
    ideal.socket? d other = real.socket? d other :=
  Host.socket?_of_sockets mirrors.sockets d other

theorem apart (mirrors : Mirrors d handle owed real ideal) {other : SocketHandle} {ring : RingId}
    (leads : real.socket? d other = some ring) : other ≠ handle := by
  rintro rfl
  rw [mirrors.gone] at leads
  cases leads

theorem length_slots (mirrors : Mirrors d handle owed real ideal) :
    ideal.table.slots.length = real.table.slots.length := by
  rw [mirrors.table]
  exact List.length_map ..

theorem inside_ideal (mirrors : Mirrors d handle owed real ideal) {queue : QueueId}
    (inside : queue.index.toNat < real.table.slots.length) :
    queue.index.toNat < ideal.table.slots.length := by
  rw [mirrors.length_slots]
  exact inside

theorem outside_ideal (mirrors : Mirrors d handle owed real ideal) {queue : QueueId}
    (outside : real.table.slots.length ≤ queue.index.toNat) :
    ideal.table.slots.length ≤ queue.index.toNat := by
  rw [mirrors.length_slots]
  exact outside

theorem capacity (mirrors : Mirrors d handle owed real ideal) :
    ideal.table.capacity = real.table.capacity := by
  rw [Table.capacity, Table.capacity, mirrors.length_slots]

theorem lookup_iff (mirrors : Mirrors d handle owed real ideal) {other : SocketHandle}
    (apart : other ≠ handle) (queue : QueueId) :
    ideal.table.lookup queue = some other ↔ real.table.lookup queue = some other := by
  rw [mirrors.table, Table.lookup_clearSocket]
  constructor
  · intro bound
    split at bound
    · cases bound
    · exact bound
  · intro bound
    rw [bound, if_neg (by simpa using apart)]

theorem queuesOf (mirrors : Mirrors d handle owed real ideal) {other : SocketHandle}
    (apart : other ≠ handle) : ideal.queuesOf other = real.queuesOf other := by
  have queues : ideal.table.queues = real.table.queues := by
    rw [mirrors.table, Table.queues_clearSocket]
  rw [Host.queuesOf, Host.queuesOf, queues]
  apply List.filter_congr
  intro queue _
  rw [decide_eq_decide]
  exact mirrors.lookup_iff apart queue

theorem record_abandon (mirrors : Mirrors d handle owed real ideal) {other : SocketHandle}
    (apart : other ≠ handle) (queue : QueueId) (progress : Progress) :
    (ideal.abandon queue other progress).record = (real.abandon queue other progress).record := by
  by_cases bound : real.table.lookup queue = some other
  · rw [Host.abandon_bound mirrors.canonical bound,
      Host.abandon_bound mirrors.ideal_canonical ((mirrors.lookup_iff apart queue).mpr bound)]
  · have unbound := mt (mirrors.lookup_iff apart queue).mp bound
    rcases Nat.lt_or_ge queue.index.toNat real.table.slots.length with inside | outside
    · have within := Table.mem_queues.mpr (mirrors.inside_ideal inside)
      rw [Host.abandon_unbound mirrors.canonical (Table.mem_queues.mpr inside) bound,
        Host.abandon_unbound mirrors.ideal_canonical within unbound]
    · rw [Host.abandon_outside outside, Host.abandon_outside (mirrors.outside_ideal outside),
        mirrors.capacity]

theorem put (mirrors : Mirrors d handle owed real ideal) {queue : QueueId} {slot : Slot}
    (inside : queue.index.toNat < real.table.slots.length)
    (fits : slot = .empty ∨ ∃ other, other ≠ handle ∧ slot = .bound other) :
    Mirrors d handle owed (real.withTable (real.table.put queue slot))
      (ideal.withTable (ideal.table.put queue slot)) where
  inside := mirrors.inside
  canonical := by
    apply mirrors.canonical.put queue
    rcases fits with empty | ⟨other, -, bound⟩
    · exact .inl empty
    · exact .inr ⟨other, bound⟩
  gone := mirrors.gone
  owes other bound := by
    change (real.table.put queue slot).lookup other = some handle at bound
    rw [Table.lookup_put_inside inside] at bound
    split at bound
    · rcases fits with rfl | ⟨socket, apart, rfl⟩
      · cases bound
      · rw [Slot.binding?_bound] at bound
        cases bound
        exact absurd rfl apart
    · exact mirrors.owes other bound
  table := by
    have kept : slot.without handle = slot := by
      rcases fits with rfl | ⟨other, apart, rfl⟩
      · exact Slot.without_empty handle
      · exact Slot.without_bound_of_ne apart
    change ideal.table.put queue slot = (real.table.put queue slot).clearSocket handle
    rw [Table.clearSocket_put, kept, mirrors.table]
  sockets := mirrors.sockets

theorem release (mirrors : Mirrors d handle owed real ideal) {other : SocketHandle}
    (apart : other ≠ handle) (queue : QueueId) :
    Mirrors d handle owed (real.withTable (real.table.release queue other))
      (ideal.withTable (ideal.table.release queue other)) where
  inside := mirrors.inside
  canonical := mirrors.canonical.release queue other
  gone := mirrors.gone
  owes target bound := by
    change (real.table.release queue other).lookup target = some handle at bound
    rw [Table.lookup_release] at bound
    split at bound
    · cases bound
    · exact mirrors.owes target bound
  table := by
    change ideal.table.release queue other = (real.table.release queue other).clearSocket handle
    rw [Table.clearSocket_release_of_ne _ _ apart, mirrors.table]
  sockets := mirrors.sockets

theorem settle {queue : QueueId} (mirrors : Mirrors d handle (queue :: owed) real ideal) :
    Mirrors d handle owed (real.withTable (real.table.release queue handle)) ideal where
  inside := mirrors.inside
  canonical := mirrors.canonical.release queue handle
  gone := mirrors.gone
  owes target bound := by
    change (real.table.release queue handle).lookup target = some handle at bound
    have kept := bound
    rw [Table.lookup_release] at kept
    split at kept
    · cases kept
    · rcases List.mem_cons.mp (mirrors.owes target kept) with rfl | member
      · exact absurd bound (Table.lookup_release_ne real.table target handle)
      · exact member
  table := by
    change ideal.table = (real.table.release queue handle).clearSocket handle
    rw [Table.clearSocket_release, mirrors.table]
  sockets := mirrors.sockets

theorem addSocket (mirrors : Mirrors d handle owed real ideal) {added : SocketHandle}
    (apart : added ≠ handle) (next : UInt32) (ring : RingId) :
    Mirrors d handle owed (real.addSocket d added next ring)
      (ideal.addSocket d added next ring) where
  inside := by
    rw [Host.length_addSocket]
    exact mirrors.inside
  canonical := mirrors.canonical
  gone := by
    rw [Host.socket?_addSocket _ _ _ _ mirrors.inside, if_neg apart]
    exact mirrors.gone
  owes := mirrors.owes
  table := mirrors.table
  sockets := by rw [Host.sockets_addSocket, Host.sockets_addSocket, mirrors.sockets]

theorem removeSocket (mirrors : Mirrors d handle owed real ideal) (other : SocketHandle)
    (ring : RingId) :
    Mirrors d handle owed (real.removeSocket d other ring) (ideal.removeSocket d other ring) where
  inside := by
    rw [Host.length_removeSocket]
    exact mirrors.inside
  canonical := mirrors.canonical
  gone := by
    rw [Host.socket?_removeSocket _ _ mirrors.inside]
    split
    · rfl
    · exact mirrors.gone
  owes := mirrors.owes
  table := mirrors.table
  sockets := by rw [Host.sockets_removeSocket, Host.sockets_removeSocket, mirrors.sockets]

theorem dispatch (mirrors : Mirrors d handle owed real ideal) (frame : Frame β) :
    Mirrors d handle owed (real.dispatch d frame).2 (ideal.dispatch d frame).2 where
  inside := by
    rw [Host.length_of_sockets (Host.sockets_dispatch ..)]
    exact mirrors.inside
  canonical := by
    rw [Host.table_dispatch]
    exact mirrors.canonical
  gone := by
    rw [Host.socket?_of_sockets (Host.sockets_dispatch ..)]
    exact mirrors.gone
  owes := by
    rw [Host.table_dispatch]
    exact mirrors.owes
  table := by
    rw [Host.table_dispatch, Host.table_dispatch]
    exact mirrors.table
  sockets := by
    rw [Host.sockets_dispatch, Host.sockets_dispatch]
    exact mirrors.sockets

end Mirrors

/-- What comes in between adds outcomes to the journal and, unless it gives the handle out again,
keeps the two hosts together. -/
structure Lockstep (d : DispatcherId) (handle : SocketHandle)
    (act : Interruption β (List Outcome)) : Prop where
  grows : ∀ outcome state, outcome ∈ state.2 → outcome ∈ (act state).2
  mirrors : ∀ {owed real ideal} told heard, Mirrors d handle owed real ideal →
    .registered handle ∉ (act (real, told)).2 →
    Mirrors d handle owed (act (real, told)).1 (act (ideal, heard)).1

variable {d : DispatcherId} {handle : SocketHandle}

theorem lockstep_id : Lockstep d handle (id : Interruption β (List Outcome)) where
  grows _ _ member := member
  mirrors _ _ mirrors _ := mirrors

theorem Lockstep.comp {first second : Interruption β (List Outcome)}
    (later : Lockstep d handle second) (sooner : Lockstep d handle first) :
    Lockstep d handle fun state => second (first state) where
  grows outcome state member := later.grows outcome _ (sooner.grows outcome state member)
  mirrors told heard mirrors fresh :=
    later.mirrors _ _ (sooner.mirrors told heard mirrors fun member => fresh
      (later.grows _ _ member)) fresh

theorem lockstep_register (ring : RingId) :
    Lockstep d handle (Task.whole (β := β) d (.register ring)) where
  grows _ _ member := List.mem_append_left _ member
  mirrors {owed real ideal} told heard mirrors fresh := by
    obtain ⟨registry, counter⟩ := Host.registry_of_sockets mirrors.sockets d
    unfold Task.whole at fresh ⊢
    cases search : (real.dispatcher d).registry.fresh? (real.dispatcher d).nextHandle with
    | none =>
      have missed := search
      rw [← registry, ← counter] at missed
      rw [Host.request_register_full search, Host.request_register_full missed]
      exact mirrors
    | some found =>
      obtain ⟨added, next⟩ := found
      have met := search
      rw [← registry, ← counter] at met
      rw [Host.request_register search] at fresh ⊢
      rw [Host.request_register met]
      have apart : added ≠ handle := by
        rintro rfl
        exact fresh (by simp)
      exact mirrors.addSocket apart next ring

theorem lockstep_bind (queue : QueueId) (other : SocketHandle) :
    Lockstep d handle (Task.whole (β := β) d (.bind queue other)) where
  grows _ _ member := List.mem_append_left _ member
  mirrors {owed real ideal} told heard mirrors _ := by
    unfold Task.whole
    cases seen : real.socket? d other with
    | none =>
      have unseen := (mirrors.socket?_eq other).trans seen
      rw [Host.request_bind_unknown seen, Host.request_bind_unknown unseen]
      exact mirrors
    | some ring =>
      have leads := (mirrors.socket?_eq other).trans seen
      rcases Nat.lt_or_ge queue.index.toNat real.table.slots.length with inside | outside
      · rw [Host.request_bind seen inside, Host.request_bind leads (mirrors.inside_ideal inside)]
        exact mirrors.put inside (.inr ⟨other, mirrors.apart seen, rfl⟩)
      · rw [Host.request_bind_outside seen outside,
          Host.request_bind_outside leads (mirrors.outside_ideal outside)]
        exact mirrors

theorem lockstep_unbind (queue : QueueId) :
    Lockstep d handle (Task.whole (β := β) d (.unbind queue)) where
  grows _ _ member := List.mem_append_left _ member
  mirrors {owed real ideal} told heard mirrors _ := by
    unfold Task.whole
    rcases Nat.lt_or_ge queue.index.toNat real.table.slots.length with inside | outside
    · rw [Host.request_unbind d inside, Host.request_unbind d (mirrors.inside_ideal inside)]
      exact mirrors.put inside (.inl rfl)
    · rw [Host.request_unbind_outside d outside,
        Host.request_unbind_outside d (mirrors.outside_ideal outside)]
      exact mirrors

theorem lockstep_interrupt {interruptions : List (Interruption β (List Outcome))}
    (others : ∀ act ∈ interruptions, Lockstep d handle act) (record : Option Record) :
    ∃ between later, (∀ state, interrupt record state interruptions = (between state, later)) ∧
      Lockstep d handle between ∧ ∀ act ∈ later, Lockstep d handle act := by
  obtain ⟨between, later, splits, chosen, remaining⟩ := interrupt_splits record interruptions
  refine ⟨between, later, splits, ?_, fun act listed => others act (remaining act listed)⟩
  rcases chosen with rfl | listed
  · exact lockstep_id
  · exact others between listed

theorem resume_grows {interruptions : List (Interruption β (List Outcome))}
    (others : ∀ act ∈ interruptions, Lockstep d handle act) (call : Call) (outcome : Outcome)
    (state : Host β × List Outcome) (member : outcome ∈ state.2) :
    outcome ∈ (Host.resume d call state interruptions).state.2 :=
  Host.resume_keeps (fun state => outcome ∈ state.2) d (fun _ _ _ kept => kept) call state
    interruptions (fun act listed between => (others act listed).grows outcome between) member

theorem mirrors_sweep {other : SocketHandle} (apart : other ≠ handle) (pending : List QueueId)
    {interruptions : List (Interruption β (List Outcome))}
    (others : ∀ act ∈ interruptions, Lockstep d handle act) {owed : List QueueId}
    {real ideal : Host β} (told heard : List Outcome) (mirrors : Mirrors d handle owed real ideal)
    (fresh : .registered handle ∉
      (Host.resume d (.sweep other pending) (real, told) interruptions).state.2) :
    Mirrors d handle owed
      (Host.resume d (.sweep other pending) (real, told) interruptions).state.1
      (Host.resume d (.sweep other pending) (ideal, heard) interruptions).state.1 := by
  induction pending generalizing interruptions real ideal told heard with
  | nil =>
    obtain ⟨between, later, splits, keeps, -⟩ :=
      lockstep_interrupt others (some (.unregistered other))
    rw [Host.resume_sweep_nil, splits] at fresh ⊢
    rw [Host.resume_sweep_nil, splits]
    exact keeps.mirrors told heard mirrors fresh
  | cons queue pending ih =>
    -- both sides find the queue bound to the other socket, or neither does, so they report alike
    have onReal := Host.step_sweep d real other queue pending
    have onIdeal := Host.step_sweep d ideal other queue pending
    rw [mirrors.record_abandon apart, Host.host_abandon mirrors.ideal_canonical] at onIdeal
    rw [Host.host_abandon mirrors.canonical] at onReal
    obtain ⟨between, later, splits, keeps, left⟩ := lockstep_interrupt others
      (real.abandon queue other (.ongoing (.sweep other pending))).record
    rw [Host.resume_of_goes onReal, splits] at fresh ⊢
    rw [Host.resume_of_goes onIdeal, splits]
    have together := keeps.mirrors told heard (mirrors.release apart queue)
      fun member => fresh (resume_grows left _ _ _ member)
    exact ih left _ _ together fresh

end RxSteering
