import RxSteering.Proofs.Interleaving
import RxSteering.Proofs.QueueIndependence
import RxSteering.Proofs.Refusals

/-!
A bind that is refused, on a queue that works for another socket. A refusal before the slot is
written leaves everything as it was. A bind whose own socket is torn down after it was found live
has written over the other socket's binding by then, and takes back its write but does not put that
binding back: the queue ends unbound while the other socket lives.
-/
namespace RxSteering

variable {β : Type}

namespace Host

/-- Runs a call to its end; before each step but the first the others do all of the next list. -/
def resumeAmong (host : Host β) (d : DispatcherId) (call : Call)
    (others : List (List (Operation β))) : Outcome × Host β :=
  match _goes : (host.step d call).progress with
  | .finished outcome => (outcome, (host.step d call).host)
  | .ongoing next =>
    ((host.step d call).host.run (others.headD [])).resumeAmong d next others.tail
termination_by call.budget
decreasing_by exact host.budget_step d call next _goes

/-- Whether an operation keeps away from the slot of the queue and from the end of the socket. -/
def Operation.spares (queue : QueueId) (handle : SocketHandle) : Operation β → Bool
  | .request _ (.unregister gone) => gone ≠ handle
  | .request _ (.bind target _) => target ≠ queue
  | .request _ (.unbind target) => target ≠ queue
  | .table operation => !operation.concerns queue
  | _ => true

section

variable {host after : Host β} {d : DispatcherId} {call next : Call} {record : Option Record}

theorem resumeAmong_of_finished {outcome : Outcome}
    (ends : host.step d call = ⟨after, record, .finished outcome⟩)
    (others : List (List (Operation β))) : host.resumeAmong d call others = (outcome, after) := by
  rw [resumeAmong]
  split
  next same =>
    rw [ends] at same ⊢
    cases same
    rfl
  next goes =>
    rw [ends] at goes
    cases goes

theorem resumeAmong_of_goes (goes : host.step d call = ⟨after, record, .ongoing next⟩)
    (others : List (List (Operation β))) :
    host.resumeAmong d call others =
      (after.run (others.headD [])).resumeAmong d next others.tail := by
  rw [resumeAmong]
  split
  next ends =>
    rw [goes] at ends
    cases ends
  next same =>
    rw [goes] at same ⊢
    cases same
    rfl

theorem resumeAmong_alone (host : Host β) (d : DispatcherId) (call : Call) :
    host.resumeAmong d call [] =
      ((resume d call (host, ()) []).outcome, (resume d call (host, ()) []).state.1) := by
  cases stepped : host.step d call with
  | mk after record progress =>
    cases progress with
    | finished outcome =>
      rw [resumeAmong_of_finished stepped, resume_of_finished stepped, interrupt_nil]
    | ongoing next =>
      have shorter : next.budget < call.budget := host.budget_step d call next (by rw [stepped])
      rw [resumeAmong_of_goes stepped, resume_of_goes stepped, interrupt_nil]
      exact resumeAmong_alone after d next
termination_by call.budget

end

theorem dispatcher_addSocket_other (host : Host β) {d e : DispatcherId} (apart : e ≠ d)
    (handle : SocketHandle) (next : UInt32) (ring : RingId) :
    (host.addSocket e handle next ring).dispatcher d = host.dispatcher d := by
  change (host.modifyDispatcher e _).dispatcher d = _
  rw [dispatcher_modifyDispatcher, if_neg (fun both => apart both.1)]

theorem dispatcher_removeSocket_other (host : Host β) {d e : DispatcherId} (apart : e ≠ d)
    (handle : SocketHandle) (ring : RingId) :
    (host.removeSocket e handle ring).dispatcher d = host.dispatcher d := by
  change (host.modifyDispatcher e _).dispatcher d = _
  rw [dispatcher_modifyDispatcher, if_neg (fun both => apart both.1)]

variable {host : Host β} {d : DispatcherId} {queue : QueueId} {handle other : SocketHandle}

theorem isRegistered_request (reached : host.Reachable)
    (live : host.isRegistered d handle = true) {e : DispatcherId} {request : Request}
    (keeps : e = d → request ≠ .unregister handle) :
    (host.request e request).2.2.isRegistered d handle = true := by
  have went := requested reached.canonical e request
  generalize host.request e request = result at went ⊢
  cases went with
  | @registered added next found ring =>
    by_cases own : e = d
    · subst own
      exact isRegistered_addSocket live added next ring
    · rw [isRegistered, host.dispatcher_addSocket_other own]
      exact live
  | @unregistered gone ring leads =>
    change (host.removeSocket e gone ring).isRegistered d handle = true
    by_cases own : e = d
    · subst own
      have apart : gone ≠ handle := by
        rintro rfl
        exact keeps rfl rfl
      exact isRegistered_removeSocket live apart ring
    · rw [isRegistered, host.dispatcher_removeSocket_other own]
      exact live
  -- no other call changes a socket
  | exhausted full ring => exact live
  | notThere unknown => exact live
  | bound leads inside => exact live
  | unknownSocket unknown queue => exact live
  | noSlotToBind leads outside => exact live
  | unbound inside => exact live
  | noSlotToUnbind outside => exact live

theorem isRegistered_perform (reached : host.Reachable)
    (live : host.isRegistered d handle = true) {operation : Operation β}
    (keeps : operation ≠ .request d (.unregister handle)) :
    (host.perform operation).host.isRegistered d handle = true := by
  cases operation with
  | request e request =>
    apply isRegistered_request reached live
    rintro rfl rfl
    exact keeps rfl
  | dispatch e frame =>
    change (host.dispatch e frame).2.isRegistered d handle = true
    rw [isRegistered, (registry_of_sockets (host.sockets_dispatch e frame) d).1]
    exact live
  | table operation => exact live
  | openRing depth => exact live
  | ring id operation => exact live

theorem lookup_request (reached : host.Reachable) {e : DispatcherId} {request : Request}
    (spares : (.request e request : Operation β).spares queue other = true) :
    (host.request e request).2.2.table.lookup queue = host.table.lookup queue ∨
      (host.request e request).2.2.table.lookup queue = none := by
  have went := requested reached.canonical e request
  generalize host.request e request = result at went ⊢
  cases went with
  | @unregistered gone ring leads =>
    change (host.table.clearSocket gone).lookup queue = _ ∨
      (host.table.clearSocket gone).lookup queue = none
    rw [Table.lookup_clearSocket]
    split
    · exact .inr rfl
    · exact .inl rfl
  | @bound target socket ring leads inside =>
    have apart : target ≠ queue := of_decide_eq_true spares
    change (host.table.put target (.bound socket)).lookup queue = _ ∨ _
    rw [Table.lookup_put, if_neg apart]
    exact .inl rfl
  | @unbound target inside =>
    have apart : target ≠ queue := of_decide_eq_true spares
    change (host.table.put target .empty).lookup queue = _ ∨ _
    rw [Table.lookup_put, if_neg apart]
    exact .inl rfl
  -- no other call writes to the table
  | registered found ring => exact .inl rfl
  | exhausted full ring => exact .inl rfl
  | notThere unknown => exact .inl rfl
  | unknownSocket unknown target => exact .inl rfl
  | noSlotToBind leads outside => exact .inl rfl
  | noSlotToUnbind outside => exact .inl rfl

theorem lookup_perform (reached : host.Reachable) {operation : Operation β}
    (spares : operation.spares queue other = true) :
    (host.perform operation).host.table.lookup queue = host.table.lookup queue ∨
      (host.perform operation).host.table.lookup queue = none := by
  cases operation with
  | request e request => exact lookup_request reached spares
  | dispatch e frame =>
    change (host.dispatch e frame).2.table.lookup queue = _ ∨ _
    rw [host.table_dispatch]
    exact .inl rfl
  | table operation =>
    have elsewhere : ¬operation.concerns queue = true := by
      simpa [Operation.spares] using spares
    have slot := host.table.slot?_perform operation queue
    rw [if_neg elsewhere] at slot
    change (host.table.perform operation).2.lookup queue = _ ∨ _
    rw [Table.lookup, slot]
    exact .inl rfl
  | openRing depth => exact .inl rfl
  | ring id operation => exact .inl rfl

theorem isRegistered_run (reached : host.Reachable) (live : host.isRegistered d handle = true)
    {operations : List (Operation β)} (keeps : .request d (.unregister handle) ∉ operations) :
    (host.run operations).isRegistered d handle = true := by
  induction operations generalizing host with
  | nil => exact live
  | cons operation rest ih =>
    rw [List.mem_cons, not_or] at keeps
    exact ih (.perform operation reached) (isRegistered_perform reached live (Ne.symm keeps.1))
      keeps.2

theorem lookup_run (reached : host.Reachable) {operations : List (Operation β)}
    (spares : ∀ operation ∈ operations, operation.spares queue other = true) :
    (host.run operations).table.lookup queue = host.table.lookup queue ∨
      (host.run operations).table.lookup queue = none := by
  induction operations generalizing host with
  | nil => exact .inl rfl
  | cons operation rest ih =>
    have first := lookup_perform reached (spares operation (List.mem_cons_self ..))
    have later := ih (.perform operation reached) fun operation member =>
      spares operation (List.mem_cons_of_mem _ member)
    change ((host.perform operation).host.run rest).table.lookup queue = _ ∨
      ((host.perform operation).host.run rest).table.lookup queue = none
    rcases later with kept | cleared
    · rw [kept]
      exact first
    · exact .inr cleared

theorem unregister_not_mem {operations : List (Operation β)}
    (spares : ∀ operation ∈ operations, operation.spares queue other = true) :
    .request d (.unregister other) ∉ operations := by
  intro member
  have spared := spares _ member
  simp [Operation.spares] at spared

theorem Reachable.publish (reached : host.Reachable) (d : DispatcherId)
    (inside : queue.index.toNat < host.table.slots.length) (handle : SocketHandle) :
    (host.withTable (host.table.put queue (.bound handle))).Reachable := by
  have stepped := reached.step d (.publish queue handle)
  rwa [Host.step, publish_inside inside] at stepped

theorem exists_step_retract (reached : host.Reachable) (d : DispatcherId) (queue : QueueId)
    (handle : SocketHandle) :
    ∃ record, host.step d (.retract queue handle) =
      ⟨host.withTable (host.table.release queue handle), record,
        .finished (.refused (.unknownSocket handle))⟩ := by
  have left := host_abandon reached.canonical queue handle
    (.finished (.refused (.unknownSocket handle)))
  have ends := host.progress_abandon queue handle (.finished (.refused (.unknownSocket handle)))
  cases cleared : host.abandon queue handle (.finished (.refused (.unknownSocket handle))) with
  | mk after record progress =>
    rw [cleared] at left ends
    cases left
    cases ends
    exact ⟨record, cleared⟩

theorem resumeAmong_confirm (reached : host.Reachable) {previous : Option SocketHandle}
    {third : List (Operation β)} :
    host.resumeAmong d (.confirm queue handle previous) [third] =
      if host.isRegistered d handle then (.bound previous, host)
      else (.refused (.unknownSocket handle),
        (host.run third).withTable ((host.run third).table.release queue handle)) := by
  split
  next live =>
    have ends : host.step d (.confirm queue handle previous) = _ := confirm_live live queue previous
    exact resumeAmong_of_finished ends [third]
  next gone =>
    have goes : host.step d (.confirm queue handle previous) = _ :=
      confirm_gone (Bool.eq_false_iff.mpr gone) queue previous
    obtain ⟨record, ends⟩ := exists_step_retract (reached.run third) d queue handle
    rw [resumeAmong_of_goes goes]
    exact resumeAmong_of_finished ends []

theorem resumeAmong_bind (reached : host.Reachable)
    (inside : queue.index.toNat < host.table.slots.length)
    (first second third : List (Operation β)) :
    host.resumeAmong d (.asked (.bind queue handle)) [first, second, third] =
      if host.isRegistered d handle then
        let publishing := host.run first
        let confirming :=
          (publishing.withTable (publishing.table.put queue (.bound handle))).run second
        let retracting := confirming.run third
        if confirming.isRegistered d handle then
          (.bound (publishing.table.lookup queue), confirming)
        else (.refused (.unknownSocket handle),
          retracting.withTable (retracting.table.release queue handle))
      else (.refused (.unknownSocket handle), host) := by
  split
  next live =>
    have goes : host.step d (.asked (.bind queue handle)) = _ := beginBind_live live queue
    have room : queue.index.toNat < (host.run first).table.slots.length := by
      rw [length_slots_run]
      exact inside
    have writes : (host.run first).step d (.publish queue handle) = _ := publish_inside room handle
    have confirming := ((reached.run first).publish d room handle).run second
    rw [resumeAmong_of_goes goes]
    change (host.run first).resumeAmong d (.publish queue handle) [second, third] = _
    rw [resumeAmong_of_goes writes]
    exact resumeAmong_confirm confirming
  next unknown =>
    have ends : host.step d (.asked (.bind queue handle)) = _ :=
      beginBind_unknown (Bool.eq_false_iff.mpr unknown) queue
    exact resumeAmong_of_finished ends _

theorem isRegistered_unregister (reached : host.Reachable) (d : DispatcherId)
    (handle : SocketHandle) :
    (host.perform (.request d (.unregister handle))).host.isRegistered d handle = false := by
  rw [not_isRegistered_iff]
  have went := requested reached.canonical d (.unregister handle)
  change (host.request d (.unregister handle)).2.2.socket? d handle = none
  generalize host.request d (.unregister handle) = result at went ⊢
  cases went with
  | @unregistered _ ring leads =>
    change (host.removeSocket d handle ring).socket? d handle = none
    rw [socket?_removeSocket _ _ (inside_of_socket? leads), if_pos rfl]
  | notThere unknown => exact unknown

theorem lookup_released (reached : host.Reachable)
    (inside : queue.index.toNat < host.table.slots.length) {second third : List (Operation β)}
    (spares : ∀ operation ∈ second ++ third, operation.spares queue other = true) :
    let written := host.withTable (host.table.put queue (.bound handle))
    (((written.run second).run third).table.release queue handle).lookup queue = none := by
  intro written
  have reachedWritten : written.Reachable := reached.publish 0 inside handle
  have start : written.table.lookup queue = some handle := by
    change (host.table.put queue (.bound handle)).lookup queue = _
    rw [Table.lookup_put_inside inside, if_pos rfl, Slot.binding?_bound]
  obtain ⟨sparesSecond, sparesThird⟩ := List.forall_mem_append.mp spares
  have confirming := lookup_run reachedWritten sparesSecond
  have retracting := lookup_run (reachedWritten.run second) sparesThird
  rw [Table.lookup_release]
  split
  · rfl
  next apart =>
    rcases retracting with same | none
    · rw [same] at apart ⊢
      rcases confirming with same | none
      · exact absurd ⟨rfl, same.trans start⟩ apart
      · exact none
    · exact none

theorem isRegistered_across (reached : host.Reachable) (live : host.isRegistered d handle = true)
    {first second : List (Operation β)}
    (keeps : .request d (.unregister handle) ∉ first ++ second) {target : QueueId}
    (inside : target.index.toNat < (host.run first).table.slots.length) (socket : SocketHandle) :
    (((host.run first).withTable ((host.run first).table.put target (.bound socket))).run
      second).isRegistered d handle = true := by
  rw [List.mem_append, not_or] at keeps
  have kept : (host.run first).isRegistered d handle = true :=
    isRegistered_run reached live keeps.1
  exact isRegistered_run ((reached.run first).publish d inside socket) kept keeps.2

theorem refused_of_live (reached : host.Reachable) (bound : host.table.lookup queue = some other)
    (live : host.isRegistered d other = true) (known : host.isRegistered d handle = true)
    {first second third : List (Operation β)} {error : Error} {after : Host β}
    (spares : ∀ operation ∈ first ++ second ++ third, operation.spares queue other = true)
    (refused : host.resumeAmong d (.asked (.bind queue handle)) [first, second, third] =
      (.refused error, after)) :
    error = .unknownSocket handle ∧ after.isRegistered d other = true ∧
      .request d (.unregister handle) ∈ first ++ second ∧ after.table.lookup queue = none := by
  obtain ⟨sparesBefore, sparesThird⟩ := List.forall_mem_append.mp spares
  obtain ⟨-, sparesSecond⟩ := List.forall_mem_append.mp sparesBefore
  have inside := Table.inside_of_lookup bound
  have room : queue.index.toNat < (host.run first).table.slots.length := by
    rw [length_slots_run]
    exact inside
  have confirming := ((reached.run first).publish d room handle).run second
  have kept := isRegistered_across reached live (unregister_not_mem sparesBefore) room handle
  rw [resumeAmong_bind reached inside, if_pos known] at refused
  simp only at refused
  split at refused
  · cases refused
  next gone =>
    cases refused
    refine ⟨rfl, isRegistered_run confirming kept (unregister_not_mem sparesThird), ?_, ?_⟩
    · -- the teardown may stand on either side of the write, but not after the second check
      by_contra absent
      exact gone (isRegistered_across reached known absent room handle)
    · exact lookup_released (reached.run first) room
        (List.forall_mem_append.mpr ⟨sparesSecond, sparesThird⟩)

/-- A bind that is refused, on a queue that is bound to a live socket, with others at work between
its steps who keep away from that queue and that socket. The socket lives on. If the bind's own
socket was not registered to begin with, nothing has changed; but if it was, then it was torn down
before the bind looked for it again, and the queue is bound to nothing. That happens whenever the
teardown runs as a whole right after the first look. -/
theorem refused_bind_over_another {host : Host β} (reached : host.Reachable) {d : DispatcherId}
    {queue : QueueId} {other : SocketHandle} (bound : host.table.lookup queue = some other)
    (live : host.isRegistered d other = true) (handle : SocketHandle) :
    (∀ first second third error after,
      (∀ operation ∈ first ++ second ++ third, operation.spares queue other = true) →
      host.resumeAmong d (.asked (.bind queue handle)) [first, second, third] =
        (.refused error, after) →
      error = .unknownSocket handle ∧ after.isRegistered d other = true ∧
        (host.isRegistered d handle = false → after = host) ∧
        (host.isRegistered d handle = true →
          .request d (.unregister handle) ∈ first ++ second ∧
            after.table.lookup queue = none)) ∧
    (handle ≠ other → host.isRegistered d handle = true →
      ∃ after, host.resumeAmong d (.asked (.bind queue handle))
          [[.request d (.unregister handle)], [], []] = (.refused (.unknownSocket handle), after) ∧
        after.isRegistered d other = true ∧ after.table.lookup queue = none) := by
  have inside := Table.inside_of_lookup bound
  refine ⟨?refusals, ?overtaken⟩
  case refusals =>
    intro first second third error after spares refused
    cases known : host.isRegistered d handle with
    | true =>
      obtain ⟨same, lives, torn, unbound⟩ :=
        refused_of_live reached bound live known spares refused
      exact ⟨same, lives, Bool.noConfusion, fun _ => ⟨torn, unbound⟩⟩
    | false =>
      rw [resumeAmong_bind reached inside, known] at refused
      cases refused
      exact ⟨rfl, live, fun _ => rfl, Bool.noConfusion⟩
  case overtaken =>
    intro apart known
    have torn := isRegistered_unregister reached d handle
    have answers : ∃ after, host.resumeAmong d (.asked (.bind queue handle))
        [[.request d (.unregister handle)], [], []] =
          (.refused (.unknownSocket handle), after) := by
      rw [resumeAmong_bind reached inside, if_pos known]
      exact ⟨_, if_neg (Bool.eq_false_iff.mp torn)⟩
    obtain ⟨after, refused⟩ := answers
    have spares : ∀ operation ∈ ([.request d (.unregister handle)] ++ [] ++ [] :
        List (Operation β)), operation.spares queue other = true := by
      intro operation member
      obtain rfl := List.mem_singleton.mp member
      exact decide_eq_true apart
    obtain ⟨-, lives, -, unbound⟩ := refused_of_live reached bound live known spares refused
    exact ⟨after, refused, lives, unbound⟩

def twoSockets : Host Nat :=
  (start .unbound [.drop]).run
    [.openRing 4, .openRing 4, .request 0 (.register 0), .request 0 (.register 1),
      .request 0 (.bind ⟨2⟩ ⟨0⟩)]

theorem twoSockets_reachable : twoSockets.Reachable := by
  have made : Table.ofCapacity 64 = .ok .unbound := rfl
  exact (Reachable.start made [.drop]).run _

theorem refused_bind_over_twoSockets :
    twoSockets.Reachable ∧ twoSockets.table.lookup ⟨2⟩ = some ⟨0⟩ ∧
      twoSockets.isRegistered 0 ⟨0⟩ = true ∧
      ∃ after, twoSockets.resumeAmong 0 (.asked (.bind ⟨2⟩ ⟨1⟩))
          [[.dispatch 0 ⟨2, 7⟩], [.request 0 (.unregister ⟨1⟩)], [.dispatch 0 ⟨2, 8⟩]] =
          (.refused (.unknownSocket ⟨1⟩), after) ∧
        after.isRegistered 0 ⟨0⟩ = true ∧ after.table.lookup ⟨2⟩ = none := by
  have bound : twoSockets.table.lookup ⟨2⟩ = some ⟨0⟩ := by decide +kernel
  have live : twoSockets.isRegistered 0 ⟨0⟩ = true := by decide +kernel
  have known : twoSockets.isRegistered 0 ⟨1⟩ = true := by decide +kernel
  have refused : (twoSockets.resumeAmong 0 (.asked (.bind ⟨2⟩ ⟨1⟩))
      [[.dispatch 0 ⟨2, 7⟩], [.request 0 (.unregister ⟨1⟩)], [.dispatch 0 ⟨2, 8⟩]]).1 =
      .refused (.unknownSocket ⟨1⟩) := by decide +kernel
  have spares : ∀ operation ∈ ([.dispatch 0 ⟨2, 7⟩] : List (Operation Nat)) ++
      [.request 0 (.unregister ⟨1⟩)] ++ [.dispatch 0 ⟨2, 8⟩],
      operation.spares ⟨2⟩ ⟨0⟩ = true := by decide
  obtain ⟨refusals, -⟩ := refused_bind_over_another twoSockets_reachable bound live ⟨1⟩
  obtain ⟨-, lives, -, unbound⟩ := refusals _ _ _ _ _ spares (Prod.ext refused rfl)
  exact ⟨twoSockets_reachable, bound, live, _, Prod.ext refused rfl, lives, (unbound known).2⟩

/-- A bind that fails does take a working queue from another socket. -/
theorem overtaken_bind_unbinds_working_queue :
    ¬∀ (host : Host Nat) (d : DispatcherId) (queue : QueueId) (handle other : SocketHandle)
        (first second third : List (Operation Nat)) (error : Error) (after : Host Nat),
      host.Reachable → host.table.lookup queue = some other →
      host.isRegistered d other = true → handle ≠ other →
      (∀ operation ∈ first ++ second ++ third, operation.spares queue other = true) →
      host.resumeAmong d (.asked (.bind queue handle)) [first, second, third] =
        (.refused error, after) →
      after.table.lookup queue = some other := by
  intro undisturbed
  have refused : (twoSockets.resumeAmong 0 (.asked (.bind ⟨2⟩ ⟨1⟩))
      [[.request 0 (.unregister ⟨1⟩)], [], []]).1 = .refused (.unknownSocket ⟨1⟩) := by
    decide +kernel
  have unbound : (twoSockets.resumeAmong 0 (.asked (.bind ⟨2⟩ ⟨1⟩))
      [[.request 0 (.unregister ⟨1⟩)], [], []]).2.table.lookup ⟨2⟩ = none := by decide +kernel
  have still := undisturbed twoSockets 0 ⟨2⟩ ⟨1⟩ ⟨0⟩ _ _ _ _ _ twoSockets_reachable
    (by decide +kernel) (by decide +kernel) (by decide) (by decide) (Prod.ext refused rfl)
  rw [unbound] at still
  cases still

end Host
end RxSteering
