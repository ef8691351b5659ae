import RxSteering.Proofs.Rings

/-!
Refusals. Which error an operation is answered with is decided by the registry and the capacity
alone, the registry first. Whatever is refused, and whatever finds nothing to remove, leaves the
whole host as it was; a bind or an unbind that succeeds writes to one slot.
-/
namespace RxSteering

namespace Table

variable {table : Table} {queue : QueueId}

theorem Canonical.put_empty (canonical : table.Canonical) (unbound : table.lookup queue = none) :
    table.put queue .empty = table := by
  apply eq_of_slots
  change table.slots.set queue.index.toNat .empty = table.slots
  rcases Nat.lt_or_ge queue.index.toNat table.slots.length with inside | outside
  · -- every word without the bound bit reads as unbound, but a canonical table holds the empty one
    have here : table.slots[queue.index.toNat] = .empty := by
      rcases canonical _ (List.getElem_mem inside) with empty | ⟨handle, bound⟩
      · exact empty
      · have found : table.lookup queue = some handle := by
          simp [lookup, slot?, inside, bound, Slot.binding?_bound]
        rw [unbound] at found
        cases found
    rw [← here, List.set_getElem_self]
  · exact List.set_eq_of_length_le outside

theorem swap_eq (table : Table) (queue : QueueId) (slot : Slot) :
    table.swap queue slot =
      if queue.index < table.capacity then .ok (table.lookup queue, table.put queue slot)
      else .error (.queueOutOfRange queue table.capacity) := by
  split
  next inside => exact swap_inside (lt_capacity_iff.mp inside) slot
  next outside => exact swap_outside (Nat.le_of_not_lt (mt lt_capacity_iff.mpr outside)) slot

def Operation.written? : Operation → Option QueueId
  | update queue _ => some queue
  | delete queue => some queue
  | deleteIf queue _ => some queue
  | _ => none

def Answer.error? : Answer → Option Error
  | refused error => some error
  | _ => none

/-- What is to be written to a slot is refused just when there is no such slot. -/
theorem error?_perform (table : Table) {operation : Operation}
    (names : operation.written? = some queue) :
    (table.perform operation).1.error? =
      if queue.index < table.capacity then none
      else some (.queueOutOfRange queue table.capacity) := by
  have swaps (slot : Slot) : (table.settle .binding (table.swap queue slot)).1.error? =
      if queue.index < table.capacity then none
      else some (.queueOutOfRange queue table.capacity) := by
    rw [swap_eq]
    split
    · rfl
    · rfl
  cases operation with
  | update named handle =>
    cases names
    exact swaps (.bound handle)
  | delete named =>
    cases names
    exact swaps .empty
  | deleteIf named handle =>
    obtain rfl : named = queue := Option.some.inj names
    change (table.settle .flag (table.deleteIf named handle)).1.error? = _
    split
    next inside =>
      unfold deleteIf
      have present : table.slot? named ≠ none :=
        mt slot?_eq_none_iff.mp (Nat.not_le_of_lt (lt_capacity_iff.mp inside))
      split
      · split
        · rfl
        · rfl
      next absent => exact absurd absent present
    next outside =>
      rw [deleteIf_outside (Nat.le_of_not_lt (mt lt_capacity_iff.mpr outside))]
      rfl
  | lookup named => cases names
  | clear => cases names
  | count => cases names
  | isEmpty => cases names
  | capacity => cases names
  | snapshot => cases names

theorem settle_of_refused {α : Type} {wrap : α → Answer} {error : Error}
    (wraps : ∀ value, wrap value ≠ .refused error) {result : Except Error (α × Table)}
    (refuses : (table.settle wrap result).1 = .refused error) :
    (table.settle wrap result).2 = table := by
  cases result with
  | error cause => rfl
  | ok changed => exact absurd refuses (wraps changed.1)

theorem perform_of_refused {operation : Operation} {error : Error}
    (refuses : (table.perform operation).1 = .refused error) :
    (table.perform operation).2 = table := by
  cases operation with
  | update queue handle => exact settle_of_refused (fun _ => Answer.noConfusion) refuses
  | delete queue => exact settle_of_refused (fun _ => Answer.noConfusion) refuses
  | deleteIf queue handle => exact settle_of_refused (fun _ => Answer.noConfusion) refuses
  | clear => cases refuses
  | lookup queue => rfl
  | count => rfl
  | isEmpty => rfl
  | capacity => rfl
  | snapshot => rfl

theorem perform_delete_none (canonical : table.Canonical)
    (answers : (table.perform (.delete queue)).1 = .binding none) :
    (table.perform (.delete queue)).2 = table := by
  change (table.settle .binding (table.swap queue .empty)).1 = .binding none at answers
  change (table.settle .binding (table.swap queue .empty)).2 = table
  rw [swap_eq] at answers ⊢
  split at answers
  next inside =>
    rw [if_pos inside]
    exact canonical.put_empty (Answer.binding.inj answers)
  next => cases answers

theorem perform_deleteIf_false {handle : SocketHandle}
    (answers : (table.perform (.deleteIf queue handle)).1 = .flag false) :
    (table.perform (.deleteIf queue handle)).2 = table := by
  simp only [perform, deleteIf] at answers ⊢
  split at answers
  · split at answers
    · cases answers
    next apart =>
      rw [if_neg apart]
      rfl
  · cases answers

end Table

theorem Ring.deliver_of_refused {β : Type} {ring : Ring β} {payload : β}
    (refuses : (ring.deliver payload).1.isAccepted = false) :
    (ring.deliver payload).2 = ring := by
  unfold deliver at refuses ⊢
  split at refuses
  · rfl
  · split at refuses
    next full =>
      rw [if_pos full]
    · cases refuses

namespace Host

variable {β : Type} {host : Host β} {d : DispatcherId} {queue : QueueId} {handle : SocketHandle}

/-- A whole bind, by what it finds: the socket is looked for first, and only then the slot. -/
theorem request_bind_eq (host : Host β) (d : DispatcherId) (queue : QueueId)
    (handle : SocketHandle) :
    host.request d (.bind queue handle) =
      if host.isRegistered d handle then
        if queue.index < host.table.capacity then
          (.bound (host.table.lookup queue), [.bound queue handle (host.table.lookup queue)],
            host.withTable (host.table.put queue (.bound handle)))
        else (.refused (.queueOutOfRange queue host.table.capacity), [], host)
      else (.refused (.unknownSocket handle), [], host) := by
  split
  next live =>
    obtain ⟨ring, leads⟩ := isRegistered_iff.mp live
    split
    next inside => exact request_bind leads (Table.lt_capacity_iff.mp inside)
    next outside =>
      exact request_bind_outside leads (Nat.le_of_not_lt (mt Table.lt_capacity_iff.mpr outside))
  next unknown =>
    exact request_bind_unknown (not_isRegistered_iff.mp (Bool.eq_false_iff.mpr unknown)) queue

theorem request_unbind_eq (host : Host β) (d : DispatcherId) (queue : QueueId) :
    host.request d (.unbind queue) =
      if queue.index < host.table.capacity then
        (.unbound (host.table.lookup queue),
          ((host.table.lookup queue).map (.unbound queue)).toList,
          host.withTable (host.table.put queue .empty))
      else (.refused (.queueOutOfRange queue host.table.capacity), [], host) := by
  split
  next inside => exact request_unbind d (Table.lt_capacity_iff.mp inside)
  next outside =>
    exact request_unbind_outside d (Nat.le_of_not_lt (mt Table.lt_capacity_iff.mpr outside))

def Answer.error? : Answer β → Option Error
  | outcome (.refused error) => some error
  | table answer => answer.error?
  | _ => none

def Operation.written? : Operation β → Option QueueId
  | request _ (.unbind queue) => some queue
  | table operation => operation.written?
  | _ => none

/-- An operation that came to nothing, as its answer tells: it was refused, there was nothing to
remove, or the payload was handed back. -/
inductive Fruitless : Operation β → Answer β → Prop where
  | refused (d : DispatcherId) (request : Request) (error : Error) :
      Fruitless (.request d request) (.outcome (.refused error))
  | unknown (d : DispatcherId) (handle : SocketHandle) :
      Fruitless (.request d (.unregister handle)) (.outcome (.unregistered false))
  | unbound (d : DispatcherId) (queue : QueueId) :
      Fruitless (.request d (.unbind queue)) (.outcome (.unbound none))
  | tableRefused (operation : Table.Operation) (error : Error) :
      Fruitless (.table operation) (.table (.refused error))
  | deleted (queue : QueueId) : Fruitless (.table (.delete queue)) (.table (.binding none))
  | kept (queue : QueueId) (handle : SocketHandle) :
      Fruitless (.table (.deleteIf queue handle)) (.table (.flag false))
  | handedBack (id : RingId) (payload : β) {delivery : Delivery β}
      (refuses : delivery.isAccepted = false) :
      Fruitless (.ring id (.deliver payload)) (.ring (.delivery delivery))

structure SameBut (queue : QueueId) (host after : Host β) : Prop where
  rings : after.rings = host.rings
  dispatchers : after.dispatchers = host.dispatchers
  capacity : after.table.capacity = host.table.capacity
  elsewhere : ∀ other, other ≠ queue → after.table.slot? other = host.table.slot? other

theorem sameBut_put (host : Host β) (queue : QueueId) (slot : Slot) :
    host.SameBut queue (host.withTable (host.table.put queue slot)) where
  rings := rfl
  dispatchers := rfl
  capacity := host.table.capacity_put queue slot
  elsewhere other apart := by
    change (host.table.put queue slot).slot? other = _
    rw [Table.slot?_put, if_neg (Ne.symm apart)]

theorem error?_bind (host : Host β) (d : DispatcherId) (queue : QueueId) (handle : SocketHandle) :
    (host.perform (.request d (.bind queue handle))).answer.error? =
      if host.isRegistered d handle then
        if queue.index < host.table.capacity then none
        else some (.queueOutOfRange queue host.table.capacity)
      else some (.unknownSocket handle) := by
  simp only [perform, request_bind_eq]
  split
  · split
    · rfl
    · rfl
  · rfl

theorem error?_written (host : Host β) {operation : Operation β}
    (names : operation.written? = some queue) :
    (host.perform operation).answer.error? =
      if queue.index < host.table.capacity then none
      else some (.queueOutOfRange queue host.table.capacity) := by
  cases operation with
  | request d request =>
    cases request with
    | unbind named =>
      cases names
      simp only [perform, request_unbind_eq]
      split
      · rfl
      · rfl
    | register ring => cases names
    | unregister handle => cases names
    | bind named handle => cases names
  | table operation => exact host.table.error?_perform names
  | dispatch d frame => cases names
  | openRing depth => cases names
  | ring id operation => cases names

theorem request_of_refused (canonical : host.table.Canonical) {request : Request} {error : Error}
    (refuses : (host.request d request).1 = .refused error) :
    (host.request d request).2.2 = host := by
  have went := requested canonical d request
  generalize host.request d request = result at went refuses ⊢
  cases went with
  | unknownSocket unknown queue => rfl
  | noSlotToBind leads outside => rfl
  | noSlotToUnbind outside => rfl
  | exhausted full ring => rfl
  | notThere unknown => rfl
  | registered found ring => cases refuses
  | unregistered leads => cases refuses
  | bound leads inside => cases refuses
  | unbound inside => cases refuses

theorem request_unregister_false (canonical : host.table.Canonical)
    (answers : (host.request d (.unregister handle)).1 = .unregistered false) :
    (host.request d (.unregister handle)).2.2 = host := by
  have went := requested canonical d (.unregister handle)
  generalize host.request d (.unregister handle) = result at went answers ⊢
  cases went with
  | unregistered leads => cases answers
  | notThere unknown => rfl

theorem request_unbind_none (canonical : host.table.Canonical)
    (answers : (host.request d (.unbind queue)).1 = .unbound none) :
    (host.request d (.unbind queue)).2.2 = host := by
  have went := requested canonical d (.unbind queue)
  generalize host.request d (.unbind queue) = result at went answers ⊢
  cases went with
  | unbound inside =>
    have unbound : host.table.lookup queue = none := Outcome.unbound.inj answers
    change host.withTable (host.table.put queue .empty) = host
    rw [canonical.put_empty unbound]
    rfl
  | noSlotToUnbind outside => rfl

theorem perform_of_fruitless (canonical : host.table.Canonical) {operation : Operation β}
    (fruitless : Fruitless operation (host.perform operation).answer) :
    (host.perform operation).host = host := by
  have tableKept {operation : Table.Operation}
      (same : (host.table.perform operation).2 = host.table) :
      (host.perform (.table operation)).host = host := by
    change host.withTable (host.table.perform operation).2 = host
    rw [same]
    rfl
  generalize answers : (host.perform operation).answer = answer at fruitless
  cases fruitless with
  | refused d request error => exact request_of_refused canonical (Answer.outcome.inj answers)
  | unknown d handle => exact request_unregister_false canonical (Answer.outcome.inj answers)
  | unbound d queue => exact request_unbind_none canonical (Answer.outcome.inj answers)
  | tableRefused operation error =>
    exact tableKept (Table.perform_of_refused (Answer.table.inj answers))
  | deleted queue => exact tableKept (Table.perform_delete_none canonical (Answer.table.inj answers))
  | kept queue handle => exact tableKept (Table.perform_deleteIf_false (Answer.table.inj answers))
  | handedBack id payload refuses =>
    have same : ((host.ring id).deliver payload).1 = _ :=
      Ring.Answer.delivery.inj (Answer.ring.inj answers)
    rw [← same] at refuses
    have kept := Ring.deliver_of_refused refuses
    change host.modifyRing id (fun ring => (ring.deliver payload).2) = host
    rw [modifyRing, modify_rings, kept, set_ring]

/-- What a host refuses, and what becomes of it. -/
structure ExactRefusals (host : Host β) : Prop where
  /-- wherever the queue is -/
  unknown : ∀ d queue handle,
    (host.perform (.request d (.bind queue handle))).answer.error? =
      some (.unknownSocket handle) ↔ host.isRegistered d handle = false
  outOfRange : ∀ d queue handle,
    (host.perform (.request d (.bind queue handle))).answer.error? =
      some (.queueOutOfRange queue host.table.capacity) ↔
    host.isRegistered d handle = true ∧ host.table.capacity ≤ queue.index
  binds : ∀ d queue handle, host.isRegistered d handle = true →
    queue.index < host.table.capacity →
    (host.perform (.request d (.bind queue handle))).answer =
      .outcome (.bound (host.table.lookup queue))
  /-- the writes that ask for no socket -/
  written : ∀ operation queue, operation.written? = some queue →
    (host.perform operation).answer.error? =
      if host.table.capacity ≤ queue.index then
        some (.queueOutOfRange queue host.table.capacity)
      else none
  fruitless : ∀ operation, Fruitless operation (host.perform operation).answer →
    (host.perform operation).host = host
  bound : ∀ d queue handle previous,
    (host.perform (.request d (.bind queue handle))).answer = .outcome (.bound previous) →
    host.SameBut queue (host.perform (.request d (.bind queue handle))).host
  unbound : ∀ d queue removed,
    (host.perform (.request d (.unbind queue))).answer = .outcome (.unbound removed) →
    host.SameBut queue (host.perform (.request d (.unbind queue))).host

/-- Refusals are exact, and whatever comes to nothing leaves the whole host as it was. -/
theorem refusals_are_exact {host : Host β} (reached : host.Reachable) : host.ExactRefusals := by
  constructor
  case unknown =>
    intro d queue handle
    rw [host.error?_bind d queue handle]
    cases host.isRegistered d handle with
    | false => simp
    | true => by_cases inside : queue.index < host.table.capacity <;> simp [inside]
  case outOfRange =>
    intro d queue handle
    rw [host.error?_bind d queue handle, ← UInt32.not_lt]
    cases host.isRegistered d handle with
    | false => simp
    | true => by_cases inside : queue.index < host.table.capacity <;> simp [inside]
  case binds =>
    intro d queue handle live inside
    simp only [perform, request_bind_eq, if_pos live, if_pos inside]
  case written =>
    intro operation queue names
    rw [host.error?_written names]
    by_cases inside : queue.index < host.table.capacity
    · rw [if_pos inside, if_neg (UInt32.not_le.mpr inside)]
    · rw [if_neg inside, if_pos (UInt32.not_lt.mp inside)]
  case fruitless =>
    intro operation fruitless
    exact perform_of_fruitless reached.canonical fruitless
  case bound =>
    intro d queue handle previous answers
    simp only [perform, request_bind_eq] at answers ⊢
    split at answers
    next live =>
      split at answers
      next inside =>
        rw [if_pos live, if_pos inside]
        exact host.sameBut_put queue (.bound handle)
      next => cases answers
    next => cases answers
  case unbound =>
    intro d queue removed answers
    simp only [perform, request_unbind_eq] at answers ⊢
    split at answers
    next inside =>
      rw [if_pos inside]
      exact host.sameBut_put queue .empty
    next => cases answers

def twoDispatchers : List (Operation Nat) :=
  [.openRing 1, .request 0 (.register 0), .request 1 (.register 0), .request 1 (.register 0),
    .request 1 (.bind ⟨1⟩ ⟨1⟩)]

theorem refusals_of_twoDispatchers :
    ∃ table, Table.ofCapacity 2 = .ok table ∧
      let host : Host Nat := (start table [.drop, .pass]).run twoDispatchers
      host.Reachable ∧
        (host.perform (.request 0 (.bind ⟨7⟩ ⟨1⟩))).answer.error? = some (.unknownSocket ⟨1⟩) ∧
        (host.perform (.request 0 (.bind ⟨7⟩ ⟨1⟩))).host = host ∧
        (host.perform (.request 0 (.bind ⟨7⟩ ⟨0⟩))).answer.error? =
          some (.queueOutOfRange ⟨7⟩ 2) ∧
        (host.perform (.request 0 (.unbind ⟨0⟩))).host = host ∧
        (host.perform (.request 0 (.bind ⟨1⟩ ⟨0⟩))).answer = .outcome (.bound (some ⟨1⟩)) ∧
        host.SameBut ⟨1⟩ (host.perform (.request 0 (.bind ⟨1⟩ ⟨0⟩))).host := by
  have made : Table.ofCapacity 2 = .ok ⟨[.empty, .empty], by decide, by decide⟩ := rfl
  refine ⟨_, made, ?_⟩
  intro host
  have reached : host.Reachable := (Reachable.start made [.drop, .pass]).run twoDispatchers
  have known : host.isRegistered 0 ⟨0⟩ = true := by decide +kernel
  have unknown : host.isRegistered 0 ⟨1⟩ = false := by decide +kernel
  have capacity : host.table.capacity = 2 := by decide +kernel
  have before : host.table.lookup ⟨1⟩ = some ⟨1⟩ := by decide +kernel
  have free : (host.perform (.request 0 (.unbind ⟨0⟩))).answer = .outcome (.unbound none) := by
    decide +kernel
  have refused : (host.perform (.request 0 (.bind ⟨7⟩ ⟨1⟩))).answer =
      .outcome (.refused (.unknownSocket ⟨1⟩)) := by decide +kernel
  have law := refusals_are_exact reached
  have answers := law.binds 0 ⟨1⟩ ⟨0⟩ known (by rw [capacity]; decide)
  rw [before] at answers
  refine ⟨reached, (law.unknown 0 ⟨7⟩ ⟨1⟩).mpr unknown, ?_, ?_, ?_, answers,
    law.bound 0 ⟨1⟩ ⟨0⟩ _ answers⟩
  · exact law.fruitless _ (by rw [refused]; exact .refused 0 _ _)
  · have outside := (law.outOfRange 0 ⟨7⟩ ⟨0⟩).mpr ⟨known, by rw [capacity]; decide⟩
    rw [capacity] at outside
    exact outside
  · exact law.fruitless _ (by rw [free]; exact .unbound 0 ⟨0⟩)

end Host
end RxSteering
