import RxSteering.Proofs.Steps

/-!
What a call does from its first step to its last. The scan of a teardown writes no record, so
nothing comes between it and the removal of the socket; each clearing that follows is one step with
one record. Without interruptions a call has a closed form: the outcome, the records and the host
that it leaves.
-/
namespace RxSteering

variable {β σ : Type}

theorem interrupt_none (state : Host β × σ) (interruptions : List (Interruption β σ)) :
    interrupt none state interruptions = (state, interruptions) := by
  cases interruptions <;> rfl

theorem interrupt_nil (record : Option Record) (state : Host β × σ) :
    interrupt record state [] = (state, []) := rfl

theorem interrupt_cons (record : Record) (state : Host β × σ)
    (interruption : Interruption β σ) (later : List (Interruption β σ)) :
    interrupt (some record) state (interruption :: later) = (interruption state, later) := rfl

theorem interrupt_splits (record : Option Record) (interruptions : List (Interruption β σ)) :
    ∃ between later, (∀ state, interrupt record state interruptions = (between state, later)) ∧
      (between = id ∨ between ∈ interruptions) ∧ ∀ next ∈ later, next ∈ interruptions := by
  cases interruptions with
  | nil => exact ⟨id, [], fun _ => rfl, .inl rfl, fun _ member => member⟩
  | cons interruption later =>
    cases record with
    | none => exact ⟨id, interruption :: later, fun _ => rfl, .inl rfl, fun _ member => member⟩
    | some record =>
      exact ⟨interruption, later, fun _ => rfl, .inr (List.mem_cons_self ..),
        fun _ member => List.mem_cons_of_mem interruption member⟩

namespace Host

theorem resume_of_finished {d : DispatcherId} {call : Call} {host after : Host β} {party : σ}
    {record : Option Record} {outcome : Outcome}
    (ends : host.step d call = ⟨after, record, .finished outcome⟩)
    (interruptions : List (Interruption β σ)) :
    resume d call (host, party) interruptions =
      ⟨outcome, record.toList, (interrupt record (after, party) interruptions).1⟩ := by
  rw [resume]
  simp only [ends]
  split
  next same =>
    rw [ends] at same
    cases same
    rfl
  next goes =>
    rw [ends] at goes
    cases goes

theorem resume_of_goes {d : DispatcherId} {call next : Call} {host after : Host β} {party : σ}
    {record : Option Record} (goes : host.step d call = ⟨after, record, .ongoing next⟩)
    (interruptions : List (Interruption β σ)) :
    resume d call (host, party) interruptions =
      let interrupted := interrupt record (after, party) interruptions
      let rest := resume d next interrupted.1 interrupted.2
      { rest with records := record.toList ++ rest.records } := by
  rw [resume]
  split
  next ends =>
    rw [goes] at ends
    cases ends
  next same =>
    rw [goes] at same
    cases same
    simp only [goes]

theorem resume_of_ongoing {d : DispatcherId} {call next : Call} {host after : Host β} {party : σ}
    (goes : host.step d call = ⟨after, none, .ongoing next⟩)
    (interruptions : List (Interruption β σ)) :
    resume d call (host, party) interruptions = resume d next (after, party) interruptions := by
  rw [resume_of_goes goes, interrupt_none]
  rfl

def queuesOf (host : Host β) (handle : SocketHandle) : List QueueId :=
  host.table.queues.filter fun queue => host.table.lookup queue = some handle

theorem mem_queuesOf {host : Host β} {handle : SocketHandle} {queue : QueueId} :
    queue ∈ host.queuesOf handle ↔ host.table.lookup queue = some handle := by
  simp only [queuesOf, List.mem_filter, decide_eq_true_eq, and_iff_right_iff_imp]
  intro bound
  exact Table.mem_queues.mpr (Table.inside_of_lookup bound)

theorem resume_scan (d : DispatcherId) (handle : SocketHandle) (ahead found : List QueueId)
    (host : Host β) (party : σ) (interruptions : List (Interruption β σ)) :
    resume d (.scan handle ahead found) (host, party) interruptions =
      resume d (.sweep handle
        (found ++ ahead.filter fun queue => host.table.lookup queue = some handle))
        (host, party) interruptions := by
  induction ahead generalizing found with
  | nil =>
    have goes : host.step d (.scan handle [] found) =
        ⟨host, none, .ongoing (.sweep handle found)⟩ := rfl
    rw [resume_of_ongoing goes]
    simp
  | cons queue ahead ih =>
    have goes : host.step d (.scan handle (queue :: ahead) found) =
        ⟨host, none, .ongoing (.scan handle ahead
          (if host.table.lookup queue = some handle then found ++ [queue] else found))⟩ := rfl
    rw [resume_of_ongoing goes, ih]
    by_cases bound : host.table.lookup queue = some handle
    · simp [bound]
    · simp [bound]

theorem resume_unregister {d : DispatcherId} {handle : SocketHandle} {ring : RingId}
    {host : Host β} (leads : host.socket? d handle = some ring) (party : σ)
    (interruptions : List (Interruption β σ)) :
    resume d (.asked (.unregister handle)) (host, party) interruptions =
      resume d (.sweep handle (host.queuesOf handle)) (host.removeSocket d handle ring, party)
        interruptions := by
  have begins : host.step d (.asked (.unregister handle)) = _ := beginUnregister_live leads
  rw [resume_of_ongoing begins, resume_scan, List.nil_append]
  rfl

theorem resume_unregister_unknown {d : DispatcherId} {handle : SocketHandle} {host : Host β}
    (unknown : host.socket? d handle = none) (party : σ)
    (interruptions : List (Interruption β σ)) :
    resume d (.asked (.unregister handle)) (host, party) interruptions =
      ⟨.unregistered false, [], (host, party)⟩ := by
  have ends : host.step d (.asked (.unregister handle)) = _ := beginUnregister_unknown unknown
  rw [resume_of_finished ends, interrupt_none]
  rfl

theorem resume_sweep_nil (d : DispatcherId) (handle : SocketHandle) (host : Host β) (party : σ)
    (interruptions : List (Interruption β σ)) :
    resume d (.sweep handle []) (host, party) interruptions =
      ⟨.unregistered true, [.unregistered handle],
        (interrupt (some (.unregistered handle)) (host, party) interruptions).1⟩ := by
  have ends : host.step d (.sweep handle []) =
      ⟨host, some (.unregistered handle), .finished (.unregistered true)⟩ := rfl
  exact resume_of_finished ends interruptions

theorem resume_sweep_bound {d : DispatcherId} {handle : SocketHandle} {queue : QueueId}
    {host : Host β} (canonical : host.table.Canonical)
    (bound : host.table.lookup queue = some handle) (owed : List QueueId) (party : σ)
    (interruptions : List (Interruption β σ)) :
    resume d (.sweep handle (queue :: owed)) (host, party) interruptions =
      let interrupted := interrupt (some (.abandoned queue handle))
        (host.withTable (host.table.release queue handle), party) interruptions
      let rest := resume d (.sweep handle owed) interrupted.1 interrupted.2
      { rest with records := .abandoned queue handle :: rest.records } := by
  have clears : host.step d (.sweep handle (queue :: owed)) = _ :=
    abandon_bound canonical bound (.ongoing (.sweep handle owed))
  exact resume_of_goes clears interruptions

theorem queuesOf_ascending (host : Host β) (handle : SocketHandle) :
    (host.queuesOf handle).Pairwise fun first second => first.index < second.index :=
  host.table.queues_ascending.filter _

theorem resume_sweep_alone (d : DispatcherId) (handle : SocketHandle) (owed : List QueueId)
    (host : Host β) (party : σ) (canonical : host.table.Canonical)
    (bound : ∀ queue ∈ owed, host.table.lookup queue = some handle)
    (ascending : owed.Pairwise fun first second => first.index < second.index) :
    resume d (.sweep handle owed) (host, party) [] =
      ⟨.unregistered true, owed.map (.abandoned · handle) ++ [.unregistered handle],
        (host.withTable (host.table.releaseAll handle owed), party)⟩ := by
  induction owed generalizing host with
  | nil => exact resume_sweep_nil d handle host party []
  | cons queue owed ih =>
    obtain ⟨below, rest⟩ := List.pairwise_cons.mp ascending
    rw [resume_sweep_bound canonical (bound queue (List.mem_cons_self ..)), interrupt_nil]
    dsimp only
    rw [ih (host.withTable (host.table.release queue handle)) (canonical.release queue handle)
      ?later rest]
    · rfl
    case later =>
      intro other member
      have apart : queue ≠ other := by
        intro same
        subst same
        exact UInt32.lt_irrefl _ (below queue member)
      change (host.table.release queue handle).lookup other = some handle
      rw [Table.lookup_release, if_neg (fun both => apart both.1)]
      exact bound other (List.mem_cons_of_mem queue member)

theorem request_unregister {host : Host β} (canonical : host.table.Canonical) {d : DispatcherId}
    {handle : SocketHandle} {ring : RingId} (leads : host.socket? d handle = some ring) :
    host.request d (.unregister handle) =
      (.unregistered true, (host.queuesOf handle).map (.abandoned · handle) ++
        [.unregistered handle],
        (host.removeSocket d handle ring).withTable (host.table.clearSocket handle)) := by
  have cleared : host.table.releaseAll handle (host.queuesOf handle) =
      host.table.clearSocket handle :=
    Table.releaseAll_eq_clearSocket fun _ bound => mem_queuesOf.mpr bound
  have swept := resume_sweep_alone d handle (host.queuesOf handle)
    (host.removeSocket d handle ring) () canonical (fun _ member => mem_queuesOf.mp member)
    (host.queuesOf_ascending handle)
  rw [request, resume_unregister leads, swept, ← cleared]
  rfl

theorem request_unregister_unknown {host : Host β} {d : DispatcherId} {handle : SocketHandle}
    (unknown : host.socket? d handle = none) :
    host.request d (.unregister handle) = (.unregistered false, [], host) := by
  rw [request, resume_unregister_unknown unknown]

theorem request_register {host : Host β} {d : DispatcherId} {handle : SocketHandle}
    {next : UInt32}
    (found : (host.dispatcher d).registry.fresh? (host.dispatcher d).nextHandle =
      some (handle, next)) (ring : RingId) :
    host.request d (.register ring) =
      (.registered handle, [.registered handle], host.addSocket d handle next ring) := by
  have ends : host.step d (.asked (.register ring)) = _ := register_found found ring
  rw [request, resume_of_finished ends]
  rfl

/-- With every id taken a registration does not come to an end, and changes nothing. -/
theorem request_register_full {host : Host β} {d : DispatcherId}
    (full : (host.dispatcher d).registry.fresh? (host.dispatcher d).nextHandle = none)
    (ring : RingId) : host.request d (.register ring) = (.unanswered, [], host) := by
  have ends : host.step d (.asked (.register ring)) = _ := register_full full ring
  rw [request, resume_of_finished ends]
  rfl

theorem request_bind_unknown {host : Host β} {d : DispatcherId} {handle : SocketHandle}
    (unknown : host.socket? d handle = none) (queue : QueueId) :
    host.request d (.bind queue handle) = (.refused (.unknownSocket handle), [], host) := by
  have ends : host.step d (.asked (.bind queue handle)) = _ :=
    beginBind_unknown (not_isRegistered_iff.mpr unknown) queue
  rw [request, resume_of_finished ends]
  rfl

theorem resume_bind {host : Host β} {d : DispatcherId} {handle : SocketHandle} {ring : RingId}
    (leads : host.socket? d handle = some ring) (queue : QueueId) (party : σ)
    (interruptions : List (Interruption β σ)) :
    resume d (.asked (.bind queue handle)) (host, party) interruptions =
      resume d (.publish queue handle) (host, party) interruptions := by
  have goes : host.step d (.asked (.bind queue handle)) = _ :=
    beginBind_live (isRegistered_iff.mpr ⟨ring, leads⟩) queue
  exact resume_of_ongoing goes interruptions

theorem request_bind_outside {host : Host β} {d : DispatcherId} {handle : SocketHandle}
    {ring : RingId} (leads : host.socket? d handle = some ring) {queue : QueueId}
    (outside : host.table.slots.length ≤ queue.index.toNat) :
    host.request d (.bind queue handle) =
      (.refused (.queueOutOfRange queue host.table.capacity), [], host) := by
  have ends : host.step d (.publish queue handle) = _ := publish_outside outside handle
  rw [request, resume_bind leads, resume_of_finished ends]
  rfl

theorem request_bind {host : Host β} {d : DispatcherId} {handle : SocketHandle} {ring : RingId}
    (leads : host.socket? d handle = some ring) {queue : QueueId}
    (inside : queue.index.toNat < host.table.slots.length) :
    host.request d (.bind queue handle) =
      (.bound (host.table.lookup queue), [.bound queue handle (host.table.lookup queue)],
        host.withTable (host.table.put queue (.bound handle))) := by
  have writes : host.step d (.publish queue handle) = _ := publish_inside inside handle
  have live : (host.withTable (host.table.put queue (.bound handle))).isRegistered d handle :=
    isRegistered_iff.mpr ⟨ring, leads⟩
  have ends : (host.withTable (host.table.put queue (.bound handle))).step d
      (.confirm queue handle (host.table.lookup queue)) = _ :=
    confirm_live live queue (host.table.lookup queue)
  rw [request, resume_bind leads, resume_of_ongoing writes, resume_of_finished ends]
  rfl

theorem request_unbind {host : Host β} (d : DispatcherId) {queue : QueueId}
    (inside : queue.index.toNat < host.table.slots.length) :
    host.request d (.unbind queue) =
      (.unbound (host.table.lookup queue), ((host.table.lookup queue).map (.unbound queue)).toList,
        host.withTable (host.table.put queue .empty)) := by
  have ends : host.step d (.asked (.unbind queue)) = _ := unbind_inside inside
  rw [request, resume_of_finished ends]
  rfl

theorem request_unbind_outside {host : Host β} (d : DispatcherId) {queue : QueueId}
    (outside : host.table.slots.length ≤ queue.index.toNat) :
    host.request d (.unbind queue) =
      (.refused (.queueOutOfRange queue host.table.capacity), [], host) := by
  have ends : host.step d (.asked (.unbind queue)) = _ := unbind_outside outside
  rw [request, resume_of_finished ends]
  rfl

/-- All the ways that a whole call goes, by what it finds, with its outcome, its records and the
host that it leaves. -/
inductive Requested (host : Host β) (d : DispatcherId) :
    Request → Outcome × List Record × Host β → Prop where
  | registered {handle : SocketHandle} {next : UInt32}
      (found : (host.dispatcher d).registry.fresh? (host.dispatcher d).nextHandle =
        some (handle, next)) (ring : RingId) :
      Requested host d (.register ring)
        (.registered handle, [.registered handle], host.addSocket d handle next ring)
  | exhausted
      (full : (host.dispatcher d).registry.fresh? (host.dispatcher d).nextHandle = none)
      (ring : RingId) : Requested host d (.register ring) (.unanswered, [], host)
  | unregistered {handle : SocketHandle} {ring : RingId}
      (leads : host.socket? d handle = some ring) :
      Requested host d (.unregister handle)
        (.unregistered true, (host.queuesOf handle).map (.abandoned · handle) ++
          [.unregistered handle],
          (host.removeSocket d handle ring).withTable (host.table.clearSocket handle))
  | notThere {handle : SocketHandle} (unknown : host.socket? d handle = none) :
      Requested host d (.unregister handle) (.unregistered false, [], host)
  | bound {queue : QueueId} {handle : SocketHandle} {ring : RingId}
      (leads : host.socket? d handle = some ring)
      (inside : queue.index.toNat < host.table.slots.length) :
      Requested host d (.bind queue handle)
        (.bound (host.table.lookup queue), [.bound queue handle (host.table.lookup queue)],
          host.withTable (host.table.put queue (.bound handle)))
  | unknownSocket {handle : SocketHandle} (unknown : host.socket? d handle = none)
      (queue : QueueId) :
      Requested host d (.bind queue handle) (.refused (.unknownSocket handle), [], host)
  | noSlotToBind {queue : QueueId} {handle : SocketHandle} {ring : RingId}
      (leads : host.socket? d handle = some ring)
      (outside : host.table.slots.length ≤ queue.index.toNat) :
      Requested host d (.bind queue handle)
        (.refused (.queueOutOfRange queue host.table.capacity), [], host)
  | unbound {queue : QueueId} (inside : queue.index.toNat < host.table.slots.length) :
      Requested host d (.unbind queue)
        (.unbound (host.table.lookup queue),
          ((host.table.lookup queue).map (.unbound queue)).toList,
          host.withTable (host.table.put queue .empty))
  | noSlotToUnbind {queue : QueueId} (outside : host.table.slots.length ≤ queue.index.toNat) :
      Requested host d (.unbind queue)
        (.refused (.queueOutOfRange queue host.table.capacity), [], host)

theorem requested {host : Host β} (canonical : host.table.Canonical) (d : DispatcherId)
    (request : Request) : host.Requested d request (host.request d request) := by
  cases request with
  | register ring =>
    cases search : (host.dispatcher d).registry.fresh? (host.dispatcher d).nextHandle with
    | none =>
      rw [request_register_full search]
      exact .exhausted search ring
    | some found =>
      rw [request_register search]
      exact .registered search ring
  | unregister handle =>
    cases seen : host.socket? d handle with
    | none =>
      rw [request_unregister_unknown seen]
      exact .notThere seen
    | some ring =>
      rw [request_unregister canonical seen]
      exact .unregistered seen
  | bind queue handle =>
    cases seen : host.socket? d handle with
    | none =>
      rw [request_bind_unknown seen]
      exact .unknownSocket seen queue
    | some ring =>
      rcases Nat.lt_or_ge queue.index.toNat host.table.slots.length with inside | outside
      · rw [request_bind seen inside]
        exact .bound seen inside
      · rw [request_bind_outside seen outside]
        exact .noSlotToBind seen outside
  | unbind queue =>
    rcases Nat.lt_or_ge queue.index.toNat host.table.slots.length with inside | outside
    · rw [request_unbind d inside]
      exact .unbound inside
    · rw [request_unbind_outside d outside]
      exact .noSlotToUnbind outside

end Host
end RxSteering
