import RxSteering.Proofs.Interlude

/-!
A teardown with other work in the middle ends in the table of a teardown in one instant: clear at
once every queue bound to the socket, then do the other work in the order it was done. The teardown
itself works off a list of queues from before that work, but touches none that was bound anew.
-/
namespace RxSteering

variable {β : Type} {d : DispatcherId} {handle : SocketHandle}

theorem lockstep_unregister (other : SocketHandle)
    {interruptions : List (Interruption β (List Outcome))}
    (others : ∀ act ∈ interruptions, Lockstep d handle act) :
    Lockstep d handle fun state =>
      let completion := Host.resume d (.asked (.unregister other)) state interruptions
      (completion.state.1, completion.state.2 ++ [completion.outcome]) where
  grows outcome state member := List.mem_append_left _ (resume_grows others _ outcome state member)
  mirrors {owed real ideal} told heard mirrors fresh := by
    dsimp only at fresh ⊢
    have unanswered := fun member => fresh (List.mem_append_left _ member)
    cases seen : real.socket? d other with
    | none =>
      have unseen := (mirrors.socket?_eq other).trans seen
      rw [Host.resume_unregister_unknown seen, Host.resume_unregister_unknown unseen]
      exact mirrors
    | some ring =>
      have leads := (mirrors.socket?_eq other).trans seen
      have apart := mirrors.apart seen
      rw [Host.resume_unregister seen] at unanswered ⊢
      rw [Host.resume_unregister leads, mirrors.queuesOf apart]
      exact mirrors_sweep apart _ others told heard (mirrors.removeSocket other ring) unanswered

mutual

theorem lockstep_task : (task : Task β) → Lockstep d handle (task.run d)
  | .register ring => by
    rw [Task.run]
    exact lockstep_register ring
  | .bind queue other => by
    rw [Task.run]
    exact lockstep_bind queue other
  | .unbind queue => by
    rw [Task.run]
    exact lockstep_unbind queue
  | .dispatch frame => by
    rw [Task.run]
    exact ⟨fun _ _ member => member, fun _ _ mirrors _ => mirrors.dispatch frame⟩
  | .unregister other interludes => by
    rw [Task.run]
    exact lockstep_unregister other (lockstep_interruptions interludes)

theorem lockstep_tasks : (tasks : List (Task β)) → Lockstep d handle (Task.runAll d tasks)
  | [] => by
    rw [Task.runAll]
    exact lockstep_id
  | task :: rest => by
    rw [Task.runAll]
    exact (lockstep_tasks rest).comp (lockstep_task task)

theorem lockstep_interruptions : (interludes : List (List (Task β))) →
    ∀ act ∈ Task.interruptions d interludes, Lockstep d handle act
  | [], act, listed => by
    rw [Task.interruptions] at listed
    cases listed
  | tasks :: rest, act, listed => by
    rw [Task.interruptions] at listed
    rcases List.mem_cons.mp listed with rfl | listed
    · exact lockstep_tasks tasks
    · exact lockstep_interruptions rest act listed

end

theorem interrupt_interruptions (record : Option Record) (interludes : List (List (Task β))) :
    ∃ tasks rest, (∀ state, interrupt record state (Task.interruptions d interludes) =
        (Task.runAll d tasks state, Task.interruptions d rest)) ∧
      ∀ n, (interludes.take (record.toList.length + n)).flatten =
        tasks ++ (rest.take n).flatten := by
  cases record with
  | none =>
    refine ⟨[], interludes, ?_, by simp⟩
    intro state
    rw [interrupt_none, Task.runAll]
    rfl
  | some record =>
    cases interludes with
    | nil =>
      refine ⟨[], [], ?_, by simp⟩
      intro state
      rw [Task.interruptions, interrupt_nil, Task.runAll]
      rfl
    | cons tasks rest =>
      refine ⟨tasks, rest, ?_, ?_⟩
      · intro state
        rw [Task.interruptions, interrupt_cons]
      · intro n
        rw [Option.toList_some, List.length_singleton, Nat.add_comm, List.take_succ_cons,
          List.flatten_cons]

theorem sweep_mirrors (owed : List QueueId) (interludes : List (List (Task β)))
    {real ideal : Host β} (told heard : List Outcome) (mirrors : Mirrors d handle owed real ideal)
    (fresh : .registered handle ∉
      (Host.resume d (.sweep handle owed) (real, told) (Task.interruptions d interludes)).state.2) :
    let completion :=
      Host.resume d (.sweep handle owed) (real, told) (Task.interruptions d interludes)
    completion.outcome = .unregistered true ∧
      Mirrors d handle [] completion.state.1
        (Task.runAll d (interludes.take completion.records.length).flatten (ideal, heard)).1 := by
  induction owed generalizing interludes real ideal told heard with
  | nil =>
    obtain ⟨tasks, rest, splits, ran⟩ :=
      interrupt_interruptions (d := d) (some (.unregistered handle)) interludes
    have taken : (interludes.take 1).flatten = tasks := by simpa using ran 0
    rw [Host.resume_sweep_nil, splits] at fresh ⊢
    dsimp only at fresh ⊢
    rw [List.length_singleton, taken]
    exact ⟨rfl, (lockstep_tasks tasks).mirrors told heard mirrors fresh⟩
  | cons queue owed ih =>
    -- whether the queue was rebound or not, the real table gets no further from the ideal one
    have goes := Host.step_sweep d real handle queue owed
    rw [Host.host_abandon mirrors.canonical] at goes
    obtain ⟨tasks, rest, splits, ran⟩ := interrupt_interruptions (d := d)
      (real.abandon queue handle (.ongoing (.sweep handle owed))).record interludes
    rw [Host.resume_of_goes goes, splits] at fresh ⊢
    dsimp only at fresh ⊢
    rw [List.length_append, ran, Task.runAll_append]
    have left : ∀ act ∈ Task.interruptions d rest, Lockstep d handle act :=
      lockstep_interruptions rest
    have together := (lockstep_tasks tasks).mirrors told heard mirrors.settle
      fun member => fresh (resume_grows left _ _ _ member)
    exact ih rest _ _ together fresh

def Call.TearsDown (handle : SocketHandle) : Call → Prop
  | asked (.unregister gone) => gone = handle
  | scan gone _ _ => gone = handle
  | sweep gone _ => gone = handle
  | _ => False

theorem Table.slot?_deleteIf {table after : Table} {cleared queue : QueueId} {removed : Bool}
    (done : table.deleteIf cleared handle = .ok (removed, after))
    (unbound : table.lookup queue ≠ some handle) : after.slot? queue = table.slot? queue := by
  unfold deleteIf at done
  split at done
  next slot present =>
    split at done
    next same =>
      cases done
      have apart : cleared ≠ queue := by
        rintro rfl
        rw [lookup, present, same] at unbound
        exact unbound (Slot.binding?_bound handle)
      rw [slot?_put, if_neg apart]
    next => cases done; rfl
  next => cases done

theorem slot?_step_of_tearsDown {call : Call} (teardown : call.TearsDown handle) {host : Host β}
    {queue : QueueId} (unbound : host.table.lookup queue ≠ some handle) :
    (host.step d call).host.table.slot? queue = host.table.slot? queue := by
  cases call with
  | asked request =>
    cases request with
    | unregister gone =>
      change (host.beginUnregister d gone).host.table.slot? queue = _
      unfold Host.beginUnregister
      split
      · rfl
      · rfl
    | register ring => cases teardown
    | bind target socket => cases teardown
    | unbind target => cases teardown
  | publish target socket => cases teardown
  | confirm target socket previous => cases teardown
  | retract target socket => cases teardown
  | scan gone ahead found =>
    cases ahead with
    | nil => rfl
    | cons next ahead => rfl
  | sweep gone owed =>
    cases owed with
    | nil => rfl
    | cons next owed =>
      obtain rfl : gone = handle := teardown
      change (host.abandon next gone _).host.table.slot? queue = _
      unfold Host.abandon
      split
      next done => exact Table.slot?_deleteIf done unbound
      next done => exact Table.slot?_deleteIf done unbound
      next => rfl

/-- A teardown with interludes ends with no queue bound to its socket, and in the table of a
teardown in one instant before all the interludes; its own steps change no slot that is bound
otherwise. -/
theorem teardown_as_in_one_instant {host : Host β} (reached : host.Reachable) {ring : RingId}
    (leads : host.socket? d handle = some ring) (interludes : List (List (Task β)))
    (fresh : .registered handle ∉ (Host.resume d (.asked (.unregister handle)) (host, [])
      (Task.interruptions d interludes)).state.2) :
    let completion :=
      Host.resume d (.asked (.unregister handle)) (host, []) (Task.interruptions d interludes)
    let cleared := (host.removeSocket d handle ring).withTable (host.table.clearSocket handle)
    let ran := (interludes.take completion.records.length).flatten
    completion.outcome = .unregistered true ∧
    (∀ queue, completion.state.1.table.lookup queue ≠ some handle) ∧
    completion.state.1.table = (Task.runAll d ran (cleared, [])).1.table ∧
    ∀ (between : Host β) (call : Call), call.TearsDown handle →
      ∀ queue, between.table.lookup queue ≠ some handle →
        (between.step d call).host.table.slot? queue = between.table.slot? queue := by
  intro completion cleared ran
  have inside := Host.inside_of_socket? leads
  have begins : Mirrors d handle (host.queuesOf handle) (host.removeSocket d handle ring)
      cleared :=
    { inside := by
        rw [Host.length_removeSocket]
        exact inside
      canonical := reached.canonical
      gone := by rw [Host.socket?_removeSocket _ _ inside, if_pos rfl]
      owes := fun _ bound => Host.mem_queuesOf.mpr bound
      table := rfl
      sockets := rfl }
  have unfolds := Host.resume_unregister leads [] (Task.interruptions d interludes)
  rw [unfolds] at fresh
  obtain ⟨outcome, mirrors⟩ := sweep_mirrors _ interludes [] [] begins fresh
  rw [← unfolds] at outcome mirrors
  have unbound : ∀ queue, completion.state.1.table.lookup queue ≠ some handle := by
    intro queue bound
    exact List.not_mem_nil (mirrors.owes queue bound)
  refine ⟨outcome, unbound, ?_, ?_⟩
  · rw [mirrors.table]
    exact (Table.clearSocket_of_unbound unbound).symm
  · intro between call teardown queue free
    exact slot?_step_of_tearsDown teardown free

def sharedQueues : List (Host.Operation Nat) :=
  [.openRing 4, .request 0 (.register 0), .request 0 (.register 0), .request 0 (.register 0),
    .request 0 (.bind ⟨0⟩ ⟨0⟩), .request 0 (.bind ⟨1⟩ ⟨0⟩), .request 0 (.bind ⟨2⟩ ⟨2⟩)]

/-- After the first queue is cleared the second goes to another socket, and the third socket is torn
down, its queue going to that other socket too. -/
def takeovers : List (List (Task Nat)) :=
  [[.bind ⟨1⟩ ⟨1⟩, .unregister ⟨2⟩ [[.bind ⟨2⟩ ⟨1⟩]]]]

theorem takeovers_outlast_teardown :
    let host : Host Nat := (Host.start .unbound [.drop]).run sharedQueues
    let completion :=
      Host.resume 0 (.asked (.unregister ⟨0⟩)) (host, []) (Task.interruptions 0 takeovers)
    let cleared := (host.removeSocket 0 ⟨0⟩ 0).withTable (host.table.clearSocket ⟨0⟩)
    host.Reachable ∧ host.socket? 0 ⟨0⟩ = some 0 ∧ .registered ⟨0⟩ ∉ completion.state.2 ∧
      completion.state.1.table.snapshot = [(⟨1⟩, ⟨1⟩), (⟨2⟩, ⟨1⟩)] ∧
      completion.state.1.table =
        (Task.runAll 0 (takeovers.take completion.records.length).flatten (cleared, [])).1.table :=
  by
  intro host completion cleared
  have made : Table.ofCapacity 64 = .ok .unbound := rfl
  have reached : host.Reachable := (Host.Reachable.start made [.drop]).run sharedQueues
  have leads : host.socket? 0 ⟨0⟩ = some 0 := by decide +kernel
  have fresh : .registered ⟨0⟩ ∉ completion.state.2 := by decide +kernel
  have bindings : completion.state.1.table.snapshot = [(⟨1⟩, ⟨1⟩), (⟨2⟩, ⟨1⟩)] := by decide +kernel
  have ends := teardown_as_in_one_instant reached leads takeovers fresh
  exact ⟨reached, leads, fresh, bindings, ends.2.2.1⟩

end RxSteering
