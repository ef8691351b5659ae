import RxSteering.Host

/-!
The calls that change a dispatcher's sockets and bindings, as the steps they are made of. A step
reads or writes one thing and may leave one record in the journal, so other calls can run between
any two steps. A bind checks the socket, writes the slot and checks the socket again: if the
socket went away in between, it takes its own write back. An unregister removes the socket, then
reads the slots in order, then clears the ones it found unless they have been rebound.
-/
namespace RxSteering

inductive Request where
  | register (ring : RingId)
  | unregister (handle : SocketHandle)
  | bind (queue : QueueId) (handle : SocketHandle)
  | unbind (queue : QueueId)
  deriving DecidableEq, Repr

inductive Outcome where
  | registered (handle : SocketHandle)
  /-- every id is taken, and the search for a free one goes on for ever -/
  | unanswered
  | unregistered (wasLive : Bool)
  | bound (previous : Option SocketHandle)
  | unbound (removed : Option SocketHandle)
  | refused (error : Error)
  deriving DecidableEq, Repr

inductive Call where
  | asked (request : Request)
  /-- the socket was found live; the slot is written next -/
  | publish (queue : QueueId) (handle : SocketHandle)
  /-- the slot was written over `previous`; the socket is checked again next -/
  | confirm (queue : QueueId) (handle : SocketHandle) (previous : Option SocketHandle)
  /-- the socket was found gone; the write is taken back next -/
  | retract (queue : QueueId) (handle : SocketHandle)
  /-- the socket was removed; the slots `ahead` are still to be read -/
  | scan (handle : SocketHandle) (ahead found : List QueueId)
  /-- all slots were read; the queues `owed` are still to be cleared -/
  | sweep (handle : SocketHandle) (owed : List QueueId)
  deriving DecidableEq, Repr

inductive Progress where
  | ongoing (call : Call)
  | finished (outcome : Outcome)
  deriving DecidableEq, Repr

def Call.budget : Call → Nat
  | asked (.register _) => 1
  | asked (.unregister _) => 2 * maxCapacity.toNat + 3
  | asked (.bind ..) => 4
  | asked (.unbind _) => 1
  | publish .. => 3
  | confirm .. => 2
  | retract .. => 1
  | scan _ ahead found => 2 * ahead.length + found.length + 2
  | sweep _ owed => owed.length + 1

structure Step (β : Type) where
  host : Host β
  record : Option Record := none
  progress : Progress

namespace Host

variable {β : Type}

def removeSocket (host : Host β) (d : DispatcherId) (handle : SocketHandle) (ring : RingId) :
    Host β :=
  (host.modifyDispatcher d fun dispatcher =>
    { dispatcher with registry := dispatcher.registry.erase handle }).modifyRing ring
      Ring.dropProducer

/-- The dispatcher holds a producer of its own for as long as the socket is registered. -/
def addSocket (host : Host β) (d : DispatcherId) (handle : SocketHandle) (next : UInt32)
    (ring : RingId) : Host β :=
  (host.modifyDispatcher d fun dispatcher =>
    { dispatcher with
      registry := dispatcher.registry.insert handle ring, nextHandle := next }).modifyRing ring
      Ring.addProducer

def register (host : Host β) (d : DispatcherId) (ring : RingId) : Step β :=
  match (host.dispatcher d).registry.fresh? (host.dispatcher d).nextHandle with
  | none => { host := host, progress := .finished .unanswered }
  | some (handle, next) =>
    { host := host.addSocket d handle next ring
      record := some (.registered handle)
      progress := .finished (.registered handle) }

def abandon (host : Host β) (queue : QueueId) (handle : SocketHandle) (progress : Progress) :
    Step β :=
  match host.table.deleteIf queue handle with
  | .ok (true, table) =>
    { host := host.withTable table, record := some (.abandoned queue handle), progress := progress }
  | .ok (false, table) => { host := host.withTable table, progress := progress }
  | .error error =>
    { host := host, record := some (.notAbandoned queue handle error), progress := progress }

def beginUnregister (host : Host β) (d : DispatcherId) (handle : SocketHandle) : Step β :=
  match (host.dispatcher d).registry.ring? handle with
  | none => { host := host, progress := .finished (.unregistered false) }
  | some ring =>
    { host := host.removeSocket d handle ring
      progress := .ongoing (.scan handle host.table.queues []) }

def beginBind (host : Host β) (d : DispatcherId) (queue : QueueId) (handle : SocketHandle) :
    Step β :=
  { host := host
    progress := if host.isRegistered d handle then .ongoing (.publish queue handle)
      else .finished (.refused (.unknownSocket handle)) }

def publish (host : Host β) (queue : QueueId) (handle : SocketHandle) : Step β :=
  match host.table.update queue handle with
  | .ok (previous, table) =>
    { host := host.withTable table, progress := .ongoing (.confirm queue handle previous) }
  | .error error => { host := host, progress := .finished (.refused error) }

def confirm (host : Host β) (d : DispatcherId) (queue : QueueId) (handle : SocketHandle)
    (previous : Option SocketHandle) : Step β :=
  if host.isRegistered d handle then
    { host := host
      record := some (.bound queue handle previous)
      progress := .finished (.bound previous) }
  else { host := host, progress := .ongoing (.retract queue handle) }

def unbind (host : Host β) (queue : QueueId) : Step β :=
  match host.table.delete queue with
  | .ok (removed, table) =>
    { host := host.withTable table
      record := removed.map (.unbound queue)
      progress := .finished (.unbound removed) }
  | .error error => { host := host, progress := .finished (.refused error) }

def step (host : Host β) (d : DispatcherId) : Call → Step β
  | .asked (.register ring) => host.register d ring
  | .asked (.unregister handle) => host.beginUnregister d handle
  | .asked (.bind queue handle) => host.beginBind d queue handle
  | .asked (.unbind queue) => host.unbind queue
  | .publish queue handle => host.publish queue handle
  | .confirm queue handle previous => host.confirm d queue handle previous
  | .retract queue handle =>
    host.abandon queue handle (.finished (.refused (.unknownSocket handle)))
  | .scan handle (queue :: ahead) found =>
    { host := host
      progress := .ongoing (.scan handle ahead
        (if host.table.lookup queue = some handle then found ++ [queue] else found)) }
  | .scan handle [] found => { host := host, progress := .ongoing (.sweep handle found) }
  | .sweep handle (queue :: owed) => host.abandon queue handle (.ongoing (.sweep handle owed))
  | .sweep handle [] =>
    { host := host
      record := some (.unregistered handle)
      progress := .finished (.unregistered true) }

theorem progress_abandon (host : Host β) (queue : QueueId) (handle : SocketHandle)
    (progress : Progress) : (host.abandon queue handle progress).progress = progress := by
  unfold abandon
  split <;> rfl

theorem budget_step (host : Host β) (d : DispatcherId) (call next : Call)
    (goes : (host.step d call).progress = .ongoing next) : next.budget < call.budget := by
  cases call with
  | asked request =>
    cases request with
    | register ring =>
      simp only [step, register] at goes
      split at goes
      · simp at goes
      · simp at goes
    | unregister handle =>
      simp only [step, beginUnregister] at goes
      split at goes
      · simp at goes
      · injection goes with same
        subst same
        have bound := host.table.length_queues_le
        simp only [Call.budget, List.length_nil]
        omega
    | bind queue handle =>
      simp only [step, beginBind] at goes
      split at goes
      · injection goes with same
        subst same
        simp [Call.budget]
      · simp at goes
    | unbind queue =>
      simp only [step, unbind] at goes
      split at goes
      · simp at goes
      · simp at goes
  | publish queue handle =>
    simp only [step, publish] at goes
    split at goes
    · injection goes with same
      subst same
      simp [Call.budget]
    · simp at goes
  | confirm queue handle previous =>
    simp only [step, confirm] at goes
    split at goes
    · simp at goes
    · injection goes with same
      subst same
      simp [Call.budget]
  | retract queue handle => simp [step, progress_abandon] at goes
  | scan handle ahead found =>
    cases ahead with
    | nil =>
      simp only [step] at goes
      injection goes with same
      subst same
      simp [Call.budget]
    | cons queue ahead =>
      simp only [step] at goes
      injection goes with same
      subst same
      by_cases bound : host.table.lookup queue = some handle
      · rw [if_pos bound]
        simp only [Call.budget, List.length_append, List.length_cons, List.length_nil]
        omega
      · rw [if_neg bound]
        simp only [Call.budget, List.length_cons]
        omega
  | sweep handle owed =>
    cases owed with
    | nil => simp [step] at goes
    | cons queue owed =>
      simp only [step, progress_abandon] at goes
      injection goes with same
      subst same
      simp [Call.budget]

end Host

/-- What other parties do between two steps of a call, with a state `σ` of their own. -/
abbrev Interruption (β σ : Type) := Host β × σ → Host β × σ

structure Completion (β σ : Type) where
  outcome : Outcome
  records : List Record
  state : Host β × σ

/-- Right after a record the next interruption runs, if there is one left. -/
def interrupt {β σ : Type} (record : Option Record) (state : Host β × σ) :
    List (Interruption β σ) → (Host β × σ) × List (Interruption β σ)
  | [] => (state, [])
  | interruption :: later =>
    if record.isSome then (interruption state, later) else (state, interruption :: later)

def Host.resume {β σ : Type} (d : DispatcherId) (call : Call) (state : Host β × σ)
    (interruptions : List (Interruption β σ)) : Completion β σ :=
  let step := state.1.step d call
  let interrupted := interrupt step.record (step.host, state.2) interruptions
  match _goes : step.progress with
  | .finished outcome => ⟨outcome, step.record.toList, interrupted.1⟩
  | .ongoing next =>
    let completion := Host.resume d next interrupted.1 interrupted.2
    { completion with records := step.record.toList ++ completion.records }
termination_by call.budget
decreasing_by exact state.1.budget_step d call next _goes

/-- Runs a whole call with nobody in between. -/
def Host.request {β : Type} (host : Host β) (d : DispatcherId) (request : Request) :
    Outcome × List Record × Host β :=
  let completion := Host.resume d (.asked request) (host, ()) []
  (completion.outcome, completion.records, completion.state.1)

end RxSteering
