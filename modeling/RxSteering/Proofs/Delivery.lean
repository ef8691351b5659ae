import RxSteering.Proofs.FrameOutcome
import RxSteering.Proofs.Ledger
import RxSteering.Proofs.Reachability

/-!
Where frames go over a whole run of one dispatcher whose table nobody else writes. The ledger of
the run decides: a frame on a queue with a current binding is offered to the ring that was passed to
the registration which was live at the bind, and to no other; a frame on any other queue follows the
miss policy. Handles that were freed and given out again make no difference.
-/
namespace RxSteering

variable {β : Type}

def Table.Operation.isRead : Table.Operation → Bool
  | lookup _ | count | isEmpty | capacity | snapshot => true
  | update .. | delete _ | deleteIf .. | clear => false

/-- The operations of this dispatcher and of the rings; of the table only readings. -/
def Host.Operation.isOwn (d : DispatcherId) : Host.Operation β → Bool
  | .request e _ => e = d
  | .dispatch e _ => e = d
  | .table operation => operation.isRead
  | .openRing _ => true
  | .ring .. => true

namespace Host

theorem withTable_of_read (host : Host β) {operation : Table.Operation}
    (reads : operation.isRead = true) :
    host.withTable (host.table.perform operation).2 = host := by
  cases operation with
  | lookup queue => rfl
  | count => rfl
  | isEmpty => rfl
  | capacity => rfl
  | snapshot => rfl
  | update queue handle => cases reads
  | delete queue => cases reads
  | deleteIf queue handle => cases reads
  | clear => cases reads

end Host

variable {d : DispatcherId} {ledger : List Change} {host : Host β}

theorem accounts_request (accounts : Accounts d ledger host) (request : Request) :
    Accounts d
      (ledger ++ (Change.of? (.request d request : Host.Operation β)
        (.outcome (host.request d request).1)).toList)
      (host.request d request).2.2 := by
  have went := Host.requested accounts.canonical d request
  generalize host.request d request = result at went ⊢
  cases went with
  | registered found ring => exact accounts.register (Registry.fresh?_free found) _ ring
  | exhausted full ring => simpa [Change.of?] using accounts
  | unregistered leads => exact accounts.unregister _
  | notThere unknown => simpa [Change.of?] using accounts
  | bound leads inside => exact accounts.bind leads inside
  | unknownSocket unknown queue => simpa [Change.of?] using accounts
  | noSlotToBind leads outside => simpa [Change.of?] using accounts
  | unbound inside =>
    apply accounts.unbind (accounts.canonical.put _ (.inl rfl))
    intro other
    rw [Table.lookup_put_inside inside, Slot.binding?_empty]
  | noSlotToUnbind outside =>
    apply accounts.unbind accounts.canonical
    intro other
    split
    next same =>
      subst same
      exact Table.lookup_outside outside
    next => rfl

theorem accounts_step (accounts : Accounts d ledger host) {operation : Host.Operation β}
    (own : operation.isOwn d = true) :
    Accounts d (ledger ++ (Change.of? operation (host.perform operation).answer).toList)
      (host.perform operation).host := by
  cases operation with
  | request e request =>
    obtain rfl : e = d := by simpa [Host.Operation.isOwn] using own
    exact accounts_request accounts request
  | dispatch e frame =>
    rw [show Change.of? _ _ = none from rfl, Option.toList_none, List.append_nil]
    exact accounts.of_same (host.table_dispatch e frame) (host.sockets_dispatch e frame)
  | table operation =>
    rw [show Change.of? _ _ = none from rfl, Option.toList_none, List.append_nil]
    change Accounts d ledger (host.withTable (host.table.perform operation).2)
    rw [host.withTable_of_read own]
    exact accounts
  | openRing depth =>
    rw [show Change.of? _ _ = none from rfl, Option.toList_none, List.append_nil]
    exact accounts.of_same rfl rfl
  | ring id operation =>
    rw [show Change.of? _ _ = none from rfl, Option.toList_none, List.append_nil]
    exact accounts.of_same rfl rfl

theorem accounts_run (accounts : Accounts d ledger host) {operations : List (Host.Operation β)}
    (own : ∀ operation ∈ operations, operation.isOwn d = true) :
    Accounts d (ledger ++ host.changes operations) (host.run operations) := by
  induction operations generalizing ledger host with
  | nil => simpa [Host.changes, Host.run] using accounts
  | cons operation rest ih =>
    have step := accounts_step accounts (own operation (List.mem_cons_self ..))
    have later := ih step fun next member => own next (List.mem_cons_of_mem operation member)
    rw [List.append_assoc] at later
    exact later

theorem Accounts.dispatch_of_current (accounts : Accounts d ledger host) {frame : Frame β}
    {handle : SocketHandle} {ring : RingId}
    (current : IsCurrentTo ledger frame.queue handle ring) :
    if (host.ring ring).isFull ∨ (host.ring ring).isClosed then
      (host.dispatch d frame).1 = .dropped .targetUnavailable ∧
        (host.dispatch d frame).2.rings = host.rings
    else
      (host.dispatch d frame).1 = .redirected handle ∧
        (host.dispatch d frame).2.rings =
          host.rings.set ring ((host.ring ring).push frame.payload) := by
  obtain ⟨bound, leads⟩ := (accounts.currentTo _ _ _).mpr current
  have outcome := Host.dispatch_of_live bound leads
  by_cases refuses : (host.ring ring).isFull ∨ (host.ring ring).isClosed
  · have full : (host.ring ring).hasRoom = false := by
      rcases refuses with full | closed
      · simp [Ring.hasRoom, full]
      · simp [Ring.hasRoom, closed]
    rw [if_pos refuses]
    simpa [full] using outcome
  · have room : (host.ring ring).hasRoom = true := by simpa [Ring.hasRoom, and_comm] using refuses
    rw [if_neg refuses]
    simpa [room] using outcome

/-- A frame reaches the ring that its queue's current binding leads to and no other; without a
current binding it reaches none and follows the miss policy. -/
theorem frame_follows_current_binding {capacity : UInt32} {table : Table}
    (made : Table.ofCapacity capacity = .ok table) (miss : MissPolicy)
    (operations : List (Host.Operation β))
    (own : ∀ operation ∈ operations, operation.isOwn 0 = true) (frame : Frame β) :
    let host := (Host.start table [miss]).run operations
    let ledger := (Host.start table [miss]).changes operations
    let result := host.perform (.dispatch 0 frame)
    (∀ handle, IsCurrent ledger frame.queue handle →
      ∃ ring, IsCurrentTo ledger frame.queue handle ring) ∧
    (∀ handle ring, IsCurrentTo ledger frame.queue handle ring →
      if (host.ring ring).isFull ∨ (host.ring ring).isClosed then
        result.answer = .disposition (.dropped .targetUnavailable) ∧
          result.host.rings = host.rings
      else
        result.answer = .disposition (.redirected handle) ∧
          result.host.rings = host.rings.set ring ((host.ring ring).push frame.payload)) ∧
    ((∀ handle, ¬ IsCurrent ledger frame.queue handle) →
      result.answer = .disposition (miss.disposition frame.payload) ∧
        result.host.rings = host.rings) ∧
    (capacity ≤ frame.queue.index → ∀ handle, ¬ IsCurrent ledger frame.queue handle) := by
  intro host ledger result
  have accounts : Accounts 0 ledger host := accounts_run (Accounts.start made miss) own
  refine ⟨?_, ?_, ?_, ?_⟩
  · intro handle current
    have bound := (accounts.current _ _).mpr current
    obtain ⟨ring, leads⟩ := accounts.live _ _ bound
    exact ⟨ring, (accounts.currentTo _ _ _).mp ⟨bound, leads⟩⟩
  · intro handle ring current
    have outcome := accounts.dispatch_of_current current
    split
    next refuses =>
      rw [if_pos refuses] at outcome
      exact ⟨congrArg Host.Answer.disposition outcome.1, outcome.2⟩
    next takes =>
      rw [if_neg takes] at outcome
      exact ⟨congrArg Host.Answer.disposition outcome.1, outcome.2⟩
  · intro none
    have unbound : host.table.lookup frame.queue = Option.none :=
      Option.eq_none_iff_forall_ne_some.mpr fun handle bound =>
        none handle ((accounts.current _ _).mp bound)
    have policy : (host.dispatcher 0).miss = miss :=
      Host.miss_of_policies (Host.policies_run (Host.start table [miss]) operations) 0
    obtain ⟨answer, rings⟩ := Host.dispatch_of_unbound (d := 0) unbound
    rw [policy] at answer
    exact ⟨congrArg Host.Answer.disposition answer, rings⟩
  · intro outside handle current
    have inside := Table.inside_of_lookup ((accounts.current _ _).mpr current)
    have size : host.table.slots.length = capacity.toNat :=
      (Host.length_slots_run (Host.start table [miss]) operations).trans
        (Table.length_ofCapacity made)
    rw [size] at inside
    exact absurd (UInt32.le_iff_toNat_le.mp outside) (Nat.not_le.mpr inside)

/-- Two sockets, the first of which is torn down before its queue is bound to the second. -/
def handover : List (Host.Operation Nat) :=
  [.openRing 1, .openRing 1, .request 0 (.register 0), .request 0 (.register 1),
    .request 0 (.bind ⟨3⟩ ⟨0⟩), .request 0 (.unregister ⟨0⟩), .request 0 (.bind ⟨3⟩ ⟨1⟩)]

theorem frame_follows_handover :
    Table.ofCapacity 64 = .ok .unbound ∧ (∀ operation ∈ handover, operation.isOwn 0 = true) ∧
      IsCurrentTo ((Host.start .unbound [.drop]).changes handover) ⟨3⟩ ⟨1⟩ 1 ∧
      (((Host.start .unbound [.drop]).run handover).perform (.dispatch 0 ⟨3, 7⟩)).answer =
        .disposition (.redirected ⟨1⟩) := by
  have made : Table.ofCapacity 64 = .ok .unbound := rfl
  have own : ∀ operation ∈ handover, operation.isOwn 0 = true := by decide
  have ledger : (Host.start .unbound [.drop]).changes handover =
      [.registered ⟨0⟩ 0, .registered ⟨1⟩ 1, .bound ⟨3⟩ ⟨0⟩, .unregistered ⟨0⟩,
        .bound ⟨3⟩ ⟨1⟩] := by decide +kernel
  have current : IsCurrentTo ((Host.start .unbound [.drop]).changes handover) ⟨3⟩ ⟨1⟩ 1 := by
    rw [ledger]
    refine ⟨[.registered ⟨0⟩ 0, .registered ⟨1⟩ 1, .bound ⟨3⟩ ⟨0⟩, .unregistered ⟨0⟩],
      .bound ⟨3⟩ ⟨1⟩, [], rfl, ⟨rfl, ?_⟩, by simp⟩
    exact ⟨[.registered ⟨0⟩ 0], .registered ⟨1⟩ 1, [.bound ⟨3⟩ ⟨0⟩, .unregistered ⟨0⟩], rfl, rfl,
      by simp⟩
  have room : ¬ ((((Host.start .unbound [.drop]).run handover).ring 1).isFull = true ∨
      (((Host.start .unbound [.drop]).run handover).ring 1).isClosed = true) := by decide +kernel
  have delivered :=
    (frame_follows_current_binding made .drop handover own ⟨3, 7⟩).2.1 ⟨1⟩ 1 current
  rw [if_neg room] at delivered
  exact ⟨made, own, current, delivered.1⟩

end RxSteering
