import RxSteering.Proofs.WholeCalls

/-!
What a host keeps whatever is done to it. A property that every single step of every call keeps
holds after whole calls too, with any interruptions that keep it; in every reachable state the
table is canonical and the dispatchers have the policies they started with.
-/
namespace RxSteering

variable {β σ : Type}

namespace Table

def WrittenTo (table after : Table) : Prop :=
  after = table ∨ ∃ queue slot, (slot = .empty ∨ ∃ handle, slot = Slot.bound handle) ∧
    after = table.put queue slot

theorem WrittenTo.canonical {table after : Table} (written : table.WrittenTo after)
    (canonical : table.Canonical) : after.Canonical := by
  rcases written with rfl | ⟨queue, slot, fits, rfl⟩
  · exact canonical
  · exact canonical.put queue fits

theorem WrittenTo.length {table after : Table} (written : table.WrittenTo after) :
    after.slots.length = table.slots.length := by
  rcases written with rfl | ⟨queue, slot, -, rfl⟩
  · rfl
  · exact List.length_set ..

theorem writtenTo_of_update {table after : Table} {queue : QueueId} {handle : SocketHandle}
    {previous : Option SocketHandle} (done : table.update queue handle = .ok (previous, after)) :
    table.WrittenTo after := by
  unfold update swap at done
  split at done
  · cases done
    exact .inr ⟨queue, .bound handle, .inr ⟨handle, rfl⟩, rfl⟩
  · cases done

theorem writtenTo_of_delete {table after : Table} {queue : QueueId}
    {previous : Option SocketHandle} (done : table.delete queue = .ok (previous, after)) :
    table.WrittenTo after := by
  unfold delete swap at done
  split at done
  · cases done
    exact .inr ⟨queue, .empty, .inl rfl, rfl⟩
  · cases done

theorem writtenTo_of_deleteIf {table after : Table} {queue : QueueId} {handle : SocketHandle}
    {removed : Bool} (done : table.deleteIf queue handle = .ok (removed, after)) :
    table.WrittenTo after := by
  unfold deleteIf at done
  split at done
  · split at done
    · cases done
      exact .inr ⟨queue, .empty, .inl rfl, rfl⟩
    · cases done
      exact .inl rfl
  · cases done

theorem writtenTo_of_settle {α : Type} {table : Table} (wrap : α → Answer)
    {result : Except Error (α × Table)}
    (written : ∀ value after, result = .ok (value, after) → table.WrittenTo after) :
    table.WrittenTo (table.settle wrap result).2 := by
  cases result with
  | error error => exact .inl rfl
  | ok pair => exact written pair.1 pair.2 rfl

theorem perform_cases (table : Table) (operation : Table.Operation) :
    (table.perform operation).2 = table.clear ∨ table.WrittenTo (table.perform operation).2 := by
  cases operation with
  | lookup queue => exact .inr (.inl rfl)
  | count => exact .inr (.inl rfl)
  | isEmpty => exact .inr (.inl rfl)
  | capacity => exact .inr (.inl rfl)
  | snapshot => exact .inr (.inl rfl)
  | clear => exact .inl rfl
  | update queue handle =>
    exact .inr (writtenTo_of_settle .binding fun _ _ => writtenTo_of_update)
  | delete queue => exact .inr (writtenTo_of_settle .binding fun _ _ => writtenTo_of_delete)
  | deleteIf queue handle =>
    exact .inr (writtenTo_of_settle .flag fun _ _ => writtenTo_of_deleteIf)

end Table

namespace Host

theorem resume_keeps (kept : Host β × σ → Prop) (d : DispatcherId)
    (steps : ∀ host party call, kept (host, party) → kept ((host.step d call).host, party))
    (call : Call) (state : Host β × σ) (interruptions : List (Interruption β σ))
    (others : ∀ interruption ∈ interruptions, ∀ between, kept between → kept (interruption between))
    (holds : kept state) : kept (resume d call state interruptions).state := by
  obtain ⟨between, later, splits, chosen, remaining⟩ :=
    interrupt_splits (state.1.step d call).record interruptions
  have stepped : kept ((state.1.step d call).host, state.2) := steps state.1 state.2 call holds
  have holdsAfter : kept (between ((state.1.step d call).host, state.2)) := by
    rcases chosen with rfl | member
    · exact stepped
    · exact others between member _ stepped
  rw [resume]
  simp only [splits]
  split
  next => exact holdsAfter
  next following goes =>
    exact resume_keeps kept d steps following _ later
      (fun interruption member => others interruption (remaining interruption member)) holdsAfter
termination_by call.budget
decreasing_by exact state.1.budget_step d call _ (by assumption)

theorem request_keeps (kept : Host β → Prop) {d : DispatcherId}
    (steps : ∀ host call, kept host → kept (host.step d call).host) {host : Host β}
    (request : Request) (holds : kept host) : kept (host.request d request).2.2 :=
  resume_keeps (fun state => kept state.1) d (fun host _ call => steps host call)
    (.asked request) (host, ()) [] (by simp) holds

/-- All that a step can do to a host: one write to the table at most, or a change of one socket. -/
inductive SteppedTo (host : Host β) (d : DispatcherId) : Host β → Prop where
  | wrote (table : Table) (written : host.table.WrittenTo table) :
      SteppedTo host d (host.withTable table)
  | added (handle : SocketHandle) (next : UInt32) (ring : RingId) :
      SteppedTo host d (host.addSocket d handle next ring)
  | removed (handle : SocketHandle) (ring : RingId) :
      SteppedTo host d (host.removeSocket d handle ring)

theorem SteppedTo.same (host : Host β) (d : DispatcherId) : host.SteppedTo d host :=
  .wrote host.table (.inl rfl)

theorem steppedTo_abandon (host : Host β) (d : DispatcherId) (queue : QueueId)
    (handle : SocketHandle) (progress : Progress) :
    host.SteppedTo d (host.abandon queue handle progress).host := by
  unfold abandon
  split
  next table done => exact .wrote table (Table.writtenTo_of_deleteIf done)
  next table done => exact .wrote table (Table.writtenTo_of_deleteIf done)
  next => exact .same host d

theorem steppedTo_step (d : DispatcherId) (host : Host β) (call : Call) :
    host.SteppedTo d (host.step d call).host := by
  cases call with
  | asked request =>
    cases request with
    | register ring =>
      simp only [step, register]
      split
      next => exact .same host d
      next handle next _ => exact .added handle next ring
    | unregister handle =>
      simp only [step, beginUnregister]
      split
      next => exact .same host d
      next ring _ => exact .removed handle ring
    | bind queue handle => exact .same host d
    | unbind queue =>
      simp only [step, unbind]
      split
      next removed table done => exact .wrote table (Table.writtenTo_of_delete done)
      next => exact .same host d
  | publish queue handle =>
    simp only [step, publish]
    split
    next previous table done => exact .wrote table (Table.writtenTo_of_update done)
    next => exact .same host d
  | confirm queue handle previous =>
    simp only [step, confirm]
    split
    · exact .same host d
    · exact .same host d
  | retract queue handle => exact host.steppedTo_abandon d queue handle _
  | scan handle ahead found =>
    cases ahead with
    | nil => exact .same host d
    | cons queue ahead => exact .same host d
  | sweep handle owed =>
    cases owed with
    | nil => exact .same host d
    | cons queue owed => exact host.steppedTo_abandon d queue handle _

theorem writtenTo_step (d : DispatcherId) (host : Host β) (call : Call) :
    host.table.WrittenTo (host.step d call).host.table := by
  have stepped := host.steppedTo_step d call
  generalize (host.step d call).host = after at stepped ⊢
  cases stepped with
  | wrote table written => exact written
  | added handle next ring => exact .inl rfl
  | removed handle ring => exact .inl rfl

theorem canonical_perform {host : Host β} (canonical : host.table.Canonical)
    (operation : Operation β) : (host.perform operation).host.table.Canonical := by
  cases operation with
  | request d request =>
    exact request_keeps (fun after => after.table.Canonical)
      (fun after call holds => (writtenTo_step d after call).canonical holds) request canonical
  | dispatch d frame =>
    change (host.dispatch d frame).2.table.Canonical
    rw [host.table_dispatch]
    exact canonical
  | table operation =>
    change (host.table.perform operation).2.Canonical
    rcases host.table.perform_cases operation with same | written
    · rw [same]
      exact Table.Canonical.clear host.table
    · exact written.canonical canonical
  | openRing depth => exact canonical
  | ring id operation => exact canonical

theorem length_slots_perform (host : Host β) (operation : Operation β) :
    (host.perform operation).host.table.slots.length = host.table.slots.length := by
  cases operation with
  | request d request =>
    exact request_keeps (fun after => after.table.slots.length = host.table.slots.length)
      (fun after call same => (writtenTo_step d after call).length.trans same) request rfl
  | dispatch d frame =>
    change (host.dispatch d frame).2.table.slots.length = _
    rw [host.table_dispatch]
  | table operation =>
    change (host.table.perform operation).2.slots.length = _
    rcases host.table.perform_cases operation with same | written
    · rw [same]
      exact List.length_map ..
    · exact written.length
  | openRing depth => rfl
  | ring id operation => rfl

theorem length_slots_run (host : Host β) (operations : List (Operation β)) :
    (host.run operations).table.slots.length = host.table.slots.length := by
  induction operations generalizing host with
  | nil => rfl
  | cons operation rest ih => exact (ih _).trans (host.length_slots_perform operation)

def policies (host : Host β) : List MissPolicy := host.dispatchers.map Dispatcher.miss

theorem policies_modifyDispatcher (host : Host β) (d : DispatcherId)
    (change : Dispatcher → Dispatcher)
    (kept : ∀ dispatcher, (change dispatcher).miss = dispatcher.miss) :
    (host.modifyDispatcher d change).policies = host.policies :=
  host.map_modifyDispatcher d Dispatcher.miss kept

theorem policies_step (d : DispatcherId) (host : Host β) (call : Call) :
    (host.step d call).host.policies = host.policies := by
  have stepped := host.steppedTo_step d call
  generalize (host.step d call).host = after at stepped ⊢
  cases stepped with
  | wrote table written => rfl
  | added handle next ring => exact host.policies_modifyDispatcher d _ fun _ => rfl
  | removed handle ring => exact host.policies_modifyDispatcher d _ fun _ => rfl

theorem policies_offer (host : Host β) (d : DispatcherId) (handle : SocketHandle) (payload : β) :
    (host.offer d handle payload).2.policies = host.policies := by
  unfold offer
  split
  · rfl
  · split <;> rfl

theorem policies_carryOut (host : Host β) (d : DispatcherId) (decision : Decision) (payload : β) :
    (host.carryOut d decision payload).2.policies = host.policies := by
  cases decision with
  | redirect handle =>
    have counted := (host.offer d handle payload).2.policies_modifyDispatcher d
      (fun dispatcher => { dispatcher with
        counters := dispatcher.counters.countOutcome (host.offer d handle payload).1 })
      fun _ => rfl
    exact counted.trans (host.policies_offer d handle payload)
  | drop => exact host.policies_modifyDispatcher d _ fun _ => rfl
  | pass => exact host.policies_modifyDispatcher d _ fun _ => rfl

theorem policies_perform (host : Host β) (operation : Operation β) :
    (host.perform operation).host.policies = host.policies := by
  cases operation with
  | request d request =>
    exact request_keeps (fun after => after.policies = host.policies)
      (fun after call same => (after.policies_step d call).trans same) request rfl
  | dispatch d frame =>
    exact (policies_carryOut _ d _ _).trans (host.policies_modifyDispatcher d _ fun _ => rfl)
  | table operation => rfl
  | openRing depth => rfl
  | ring id operation => rfl

theorem policies_run (host : Host β) (operations : List (Operation β)) :
    (host.run operations).policies = host.policies := by
  induction operations generalizing host with
  | nil => rfl
  | cons operation rest ih => exact (ih _).trans (host.policies_perform operation)

theorem miss_eq (host : Host β) (d : DispatcherId) :
    (host.dispatcher d).miss = host.policies.getD d .drop := by
  simp only [dispatcher, policies, List.getD_eq_getElem?_getD, List.getElem?_map]
  cases host.dispatchers[d]? with
  | none => rfl
  | some dispatcher => rfl

theorem miss_of_policies {a b : Host β} (same : a.policies = b.policies) (d : DispatcherId) :
    (a.dispatcher d).miss = (b.dispatcher d).miss := by
  rw [miss_eq, miss_eq, same]

theorem policies_start (table : Table) (policies : List MissPolicy) :
    (start table policies : Host β).policies = policies := by
  simp [start, Host.policies, Function.comp_def]

theorem length_of_policies {a b : Host β} (same : a.policies = b.policies) :
    a.dispatchers.length = b.dispatchers.length := by
  simpa [policies] using congrArg List.length same

/-- The states that a host comes to by whole operations of any parties, and by single steps of
calls at any point. -/
inductive Reachable : Host β → Prop where
  | start {capacity : UInt32} {table : Table} (made : Table.ofCapacity capacity = .ok table)
      (policies : List MissPolicy) : Reachable (Host.start table policies)
  | perform {host : Host β} (operation : Operation β) :
      Reachable host → Reachable (host.perform operation).host
  | step {host : Host β} (d : DispatcherId) (call : Call) :
      Reachable host → Reachable (host.step d call).host

theorem Reachable.run {host : Host β} (reached : host.Reachable) (operations : List (Operation β)) :
    (host.run operations).Reachable := by
  induction operations generalizing host with
  | nil => exact reached
  | cons operation rest ih => exact ih (.perform operation reached)

theorem Reachable.canonical {host : Host β} (reached : host.Reachable) :
    host.table.Canonical := by
  induction reached with
  | start made policies => exact Table.Canonical.ofCapacity made
  | perform operation _ ih => exact canonical_perform ih operation
  | step d call _ ih => exact (writtenTo_step d _ call).canonical ih

end Host
end RxSteering
