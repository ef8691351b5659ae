import RxSteering.Proofs.WholeCalls

/-!
The ledger of a run: what its operations changed, as their answers tell it. Which socket a queue is
bound to, and which ring that socket leads to, can be read off the ledger alone, and the host agrees
with it after every operation (`accounts_step`, `accounts_run`).
-/
namespace RxSteering

variable {β : Type}

inductive Change where
  | registered (handle : SocketHandle) (ring : RingId)
  | unregistered (handle : SocketHandle)
  | bound (queue : QueueId) (handle : SocketHandle)
  | unbound (queue : QueueId)
  deriving DecidableEq, Repr

def Change.of? : Host.Operation β → Host.Answer β → Option Change
  | .request _ (.register ring), .outcome (.registered handle) => some (.registered handle ring)
  | .request _ (.unregister handle), .outcome (.unregistered true) => some (.unregistered handle)
  | .request _ (.bind queue handle), .outcome (.bound _) => some (.bound queue handle)
  | .request _ (.unbind queue), _ => some (.unbound queue)
  | _, _ => none

def Host.changes (host : Host β) : List (Host.Operation β) → List Change
  | [] => []
  | operation :: rest =>
    (Change.of? operation (host.perform operation).answer).toList ++
      (host.perform operation).host.changes rest

/-- Some change started it, and no later change ended it. The start may depend on the changes
before. -/
def Since (starts : List Change → Change → Prop) (ends : Change → Prop) (ledger : List Change) :
    Prop :=
  ∃ before change after, ledger = before ++ change :: after ∧ starts before change ∧
    ∀ later ∈ after, ¬ ends later

/-- The latest registration that answered this handle passed this ring, and is not over. -/
def LeadsTo (ledger : List Change) (handle : SocketHandle) (ring : RingId) : Prop :=
  Since (fun _ change => change = .registered handle ring)
    (fun change => (∃ other, change = .registered handle other) ∨ change = .unregistered handle)
    ledger

/-- What ends a binding of the queue to the socket: another bind of the queue, its unbinding, or
the end of the socket. -/
def EndsBinding (queue : QueueId) (handle : SocketHandle) (change : Change) : Prop :=
  (∃ other, change = .bound queue other) ∨ change = .unbound queue ∨ change = .unregistered handle

/-- The queue was bound to the socket and nothing has ended that. -/
def IsCurrent (ledger : List Change) (queue : QueueId) (handle : SocketHandle) : Prop :=
  Since (fun _ change => change = .bound queue handle) (EndsBinding queue handle) ledger

/-- The queue was bound to the socket when the socket led to this ring, and nothing has ended
that. -/
def IsCurrentTo (ledger : List Change) (queue : QueueId) (handle : SocketHandle) (ring : RingId) :
    Prop :=
  Since (fun before change => change = .bound queue handle ∧ LeadsTo before handle ring)
    (EndsBinding queue handle) ledger

theorem since_append_singleton (starts : List Change → Change → Prop) (ends : Change → Prop)
    (ledger : List Change) (change : Change) :
    Since starts ends (ledger ++ [change]) ↔
      starts ledger change ∨ (Since starts ends ledger ∧ ¬ ends change) := by
  constructor
  · rintro ⟨before, start, after, split, started, lasting⟩
    rcases List.eq_nil_or_concat after with rfl | ⟨earlier, last, rfl⟩
    · obtain ⟨rfl, same⟩ := List.append_inj' split rfl
      cases same
      exact .inl started
    · have split : ledger ++ [change] = (before ++ start :: earlier) ++ [last] := by
        rw [split, List.concat_eq_append, List.append_assoc, List.cons_append]
      obtain ⟨rfl, same⟩ := List.append_inj' split rfl
      cases same
      refine .inr ⟨⟨before, start, earlier, rfl, started, ?_⟩, lasting change (by simp)⟩
      intro later member
      exact lasting later (by simp [member])
  · rintro (started | ⟨⟨before, start, after, rfl, started, lasting⟩, kept⟩)
    · exact ⟨ledger, change, [], rfl, started, by simp⟩
    · refine ⟨before, start, after ++ [change], by simp, started, ?_⟩
      intro later member
      rcases List.mem_append.mp member with old | new
      · exact lasting later old
      · rwa [List.mem_singleton.mp new]

theorem leadsTo_append (ledger : List Change) (change : Change) (handle : SocketHandle)
    (ring : RingId) :
    LeadsTo (ledger ++ [change]) handle ring ↔
      change = .registered handle ring ∨ (LeadsTo ledger handle ring ∧
        ¬ ((∃ other, change = .registered handle other) ∨ change = .unregistered handle)) :=
  since_append_singleton _ _ ledger change

theorem isCurrent_append (ledger : List Change) (change : Change) (queue : QueueId)
    (handle : SocketHandle) :
    IsCurrent (ledger ++ [change]) queue handle ↔
      change = .bound queue handle ∨
        (IsCurrent ledger queue handle ∧ ¬ EndsBinding queue handle change) :=
  since_append_singleton _ _ ledger change

theorem isCurrentTo_append (ledger : List Change) (change : Change) (queue : QueueId)
    (handle : SocketHandle) (ring : RingId) :
    IsCurrentTo (ledger ++ [change]) queue handle ring ↔
      (change = .bound queue handle ∧ LeadsTo ledger handle ring) ∨
        (IsCurrentTo ledger queue handle ring ∧ ¬ EndsBinding queue handle change) :=
  since_append_singleton _ _ ledger change

theorem not_since_nil (starts : List Change → Change → Prop) (ends : Change → Prop) :
    ¬ Since starts ends [] := by
  rintro ⟨before, change, after, empty, -, -⟩
  simp at empty

def LeadsAs (d : DispatcherId) (ledger : List Change) (host : Host β) : Prop :=
  ∀ handle ring, host.socket? d handle = some ring ↔ LeadsTo ledger handle ring

namespace LeadsAs

variable {d : DispatcherId} {ledger : List Change} {host : Host β}

theorem addSocket (leads : LeadsAs d ledger host) (inside : d < host.dispatchers.length)
    (handle : SocketHandle) (next : UInt32) (ring : RingId) :
    LeadsAs d (ledger ++ [.registered handle ring]) (host.addSocket d handle next ring) := by
  intro other target
  rw [leadsTo_append, ← leads, host.socket?_addSocket handle next ring inside]
  by_cases same : handle = other
  · subst same
    simp [eq_comm]
  · simp [same]

theorem removeSocket (leads : LeadsAs d ledger host) (inside : d < host.dispatchers.length)
    (handle : SocketHandle) (ring : RingId) :
    LeadsAs d (ledger ++ [.unregistered handle]) (host.removeSocket d handle ring) := by
  intro other target
  rw [leadsTo_append, ← leads, host.socket?_removeSocket ring inside]
  by_cases same : handle = other
  · simp [same]
  · simp [same]

end LeadsAs

structure Accounts (d : DispatcherId) (ledger : List Change) (host : Host β) : Prop where
  inside : d < host.dispatchers.length
  canonical : host.table.Canonical
  leads : ∀ handle ring, host.socket? d handle = some ring ↔ LeadsTo ledger handle ring
  current : ∀ queue handle, host.table.lookup queue = some handle ↔ IsCurrent ledger queue handle
  currentTo : ∀ queue handle ring,
    host.table.lookup queue = some handle ∧ host.socket? d handle = some ring ↔
      IsCurrentTo ledger queue handle ring
  live : ∀ queue handle, host.table.lookup queue = some handle →
    ∃ ring, host.socket? d handle = some ring

namespace Accounts

variable {d : DispatcherId} {ledger : List Change} {host : Host β}

theorem of_same (accounts : Accounts d ledger host) {after : Host β}
    (table : after.table = host.table) (sockets : after.sockets = host.sockets) :
    Accounts d ledger after where
  inside := by
    rw [Host.length_of_sockets sockets]
    exact accounts.inside
  canonical := by
    rw [table]
    exact accounts.canonical
  leads handle ring := by
    rw [Host.socket?_of_sockets sockets]
    exact accounts.leads handle ring
  current queue handle := by
    rw [table]
    exact accounts.current queue handle
  currentTo queue handle ring := by
    rw [table, Host.socket?_of_sockets sockets]
    exact accounts.currentTo queue handle ring
  live queue handle := by
    rw [table, Host.socket?_of_sockets sockets]
    exact accounts.live queue handle

theorem start {capacity : UInt32} {table : Table} (made : Table.ofCapacity capacity = .ok table)
    (miss : MissPolicy) : Accounts 0 [] (Host.start table [miss] : Host β) where
  inside := by simp [Host.start]
  canonical := Table.Canonical.ofCapacity made
  leads handle ring := iff_of_false (by simp [Host.socket?, Host.start, Host.dispatcher,
    Registry.ring?, Registry.empty]) (not_since_nil _ _)
  current queue handle := iff_of_false (by simp [Host.start, Table.lookup_ofCapacity made])
    (not_since_nil _ _)
  currentTo queue handle ring :=
    iff_of_false (by simp [Host.start, Table.lookup_ofCapacity made]) (not_since_nil _ _)
  live queue handle bound := by simp [Host.start, Table.lookup_ofCapacity made] at bound

theorem register (accounts : Accounts d ledger host) {handle : SocketHandle}
    (free : host.socket? d handle = none) (next : UInt32) (ring : RingId) :
    Accounts d (ledger ++ [.registered handle ring]) (host.addSocket d handle next ring) where
  inside := by
    rw [Host.length_addSocket]
    exact accounts.inside
  canonical := accounts.canonical
  leads := LeadsAs.addSocket accounts.leads accounts.inside handle next ring
  current queue other := by
    rw [isCurrent_append, ← accounts.current, Host.table_addSocket]
    simp [EndsBinding]
  currentTo queue other target := by
    rw [isCurrentTo_append, ← accounts.currentTo, Host.table_addSocket,
      host.socket?_addSocket handle next ring accounts.inside]
    by_cases same : handle = other
    · subst same
      have unbound : host.table.lookup queue ≠ some handle := by
        intro bound
        obtain ⟨target, leads⟩ := accounts.live queue handle bound
        rw [free] at leads
        cases leads
      simp [EndsBinding, unbound]
    · simp [EndsBinding, same]
  live queue other bound := by
    rw [host.socket?_addSocket handle next ring accounts.inside]
    split
    · exact ⟨ring, rfl⟩
    · exact accounts.live queue other bound

theorem unregister (accounts : Accounts d ledger host) {handle : SocketHandle} (ring : RingId) :
    Accounts d (ledger ++ [.unregistered handle])
      ((host.removeSocket d handle ring).withTable (host.table.clearSocket handle)) where
  inside := by
    change d < (host.removeSocket d handle ring).dispatchers.length
    rw [Host.length_removeSocket]
    exact accounts.inside
  canonical := accounts.canonical.clearSocket handle
  leads := LeadsAs.removeSocket accounts.leads accounts.inside handle ring
  current queue other := by
    change (host.table.clearSocket handle).lookup queue = some other ↔ _
    rw [isCurrent_append, ← accounts.current, Table.lookup_clearSocket]
    by_cases same : handle = other
    · subst same
      simp [EndsBinding]
    · by_cases bound : host.table.lookup queue = some handle
      · simp [EndsBinding, bound, same]
      · simp [EndsBinding, bound, same]
  currentTo queue other target := by
    change (host.table.clearSocket handle).lookup queue = some other ∧
      (host.removeSocket d handle ring).socket? d other = some target ↔ _
    rw [isCurrentTo_append, ← accounts.currentTo, Table.lookup_clearSocket,
      host.socket?_removeSocket ring accounts.inside]
    by_cases same : handle = other
    · subst same
      simp [EndsBinding]
    · by_cases bound : host.table.lookup queue = some handle
      · simp [EndsBinding, bound, same]
      · simp [EndsBinding, bound, same]
  live queue other bound := by
    change (host.table.clearSocket handle).lookup queue = some other at bound
    change ∃ target, (host.removeSocket d handle ring).socket? d other = some target
    rw [Table.lookup_clearSocket] at bound
    split at bound
    · cases bound
    next kept =>
      have apart : handle ≠ other := by
        intro same
        subst same
        exact kept bound
      rw [host.socket?_removeSocket ring accounts.inside, if_neg apart]
      exact accounts.live queue other bound

theorem bind (accounts : Accounts d ledger host) {queue : QueueId} {handle : SocketHandle}
    {ring : RingId} (leads : host.socket? d handle = some ring)
    (inside : queue.index.toNat < host.table.slots.length) :
    Accounts d (ledger ++ [.bound queue handle])
      (host.withTable (host.table.put queue (.bound handle))) where
  inside := accounts.inside
  canonical := accounts.canonical.put queue (.inr ⟨handle, rfl⟩)
  leads other target := by
    change host.socket? d other = some target ↔ _
    rw [leadsTo_append, ← accounts.leads]
    simp
  current other socket := by
    change (host.table.put queue (.bound handle)).lookup other = some socket ↔ _
    rw [isCurrent_append, ← accounts.current, Table.lookup_put_inside inside, Slot.binding?_bound]
    by_cases same : queue = other
    · simp [EndsBinding, same]
    · simp [EndsBinding, same]
  currentTo other socket target := by
    change (host.table.put queue (.bound handle)).lookup other = some socket ∧
      host.socket? d socket = some target ↔ _
    rw [isCurrentTo_append, ← accounts.currentTo, ← accounts.leads,
      Table.lookup_put_inside inside, Slot.binding?_bound]
    by_cases same : queue = other
    · simp [EndsBinding, same]
    · simp [EndsBinding, same]
  live other socket bound := by
    change (host.table.put queue (.bound handle)).lookup other = some socket at bound
    change ∃ target, host.socket? d socket = some target
    rw [Table.lookup_put_inside inside, Slot.binding?_bound] at bound
    split at bound
    · cases bound
      exact ⟨ring, leads⟩
    · exact accounts.live other socket bound

theorem unbind (accounts : Accounts d ledger host) {queue : QueueId} {table : Table}
    (canonical : table.Canonical)
    (cleared : ∀ other, table.lookup other =
      if queue = other then none else host.table.lookup other) :
    Accounts d (ledger ++ [.unbound queue]) (host.withTable table) where
  inside := accounts.inside
  canonical := canonical
  leads other target := by
    change host.socket? d other = some target ↔ _
    rw [leadsTo_append, ← accounts.leads]
    simp
  current other socket := by
    change table.lookup other = some socket ↔ _
    rw [isCurrent_append, ← accounts.current, cleared]
    by_cases same : queue = other
    · simp [EndsBinding, same]
    · simp [EndsBinding, same]
  currentTo other socket target := by
    change table.lookup other = some socket ∧ host.socket? d socket = some target ↔ _
    rw [isCurrentTo_append, ← accounts.currentTo, cleared]
    by_cases same : queue = other
    · simp [EndsBinding, same]
    · simp [EndsBinding, same]
  live other socket bound := by
    change table.lookup other = some socket at bound
    rw [cleared] at bound
    split at bound
    · cases bound
    · exact accounts.live other socket bound

end Accounts
end RxSteering
