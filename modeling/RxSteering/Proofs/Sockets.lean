import RxSteering.Operation

/-!
The live sockets of a host, apart from everything else in it: a handle that is given out is not
live, a registration or its end changes one handle of one dispatcher, and the changes of the table,
of the rings and of the counters change no socket at all.
-/
namespace RxSteering

namespace Registry

theorem add_ofNat_succ (counter : UInt32) (index : Nat) :
    counter + 1 + UInt32.ofNat index = counter + UInt32.ofNat (index + 1) := by
  rw [UInt32.ofNat_add, UInt32.add_comm (UInt32.ofNat index), ← UInt32.add_assoc]
  rfl

theorem passedOver?_free (registry : Registry) (n : Nat) (counter : UInt32) (passed : Nat)
    (found : registry.passedOver? n counter = some passed) :
    registry.isLive ⟨counter + UInt32.ofNat passed⟩ = false := by
  induction n generalizing counter passed with
  | zero => cases found
  | succ n ih =>
    unfold passedOver? at found
    split at found
    · obtain ⟨rest, later, rfl⟩ := Option.map_eq_some_iff.mp found
      have free := ih (counter + 1) rest later
      rwa [add_ofNat_succ] at free
    next free =>
      cases found
      simpa using free

theorem fresh?_free {registry : Registry} {counter next : UInt32} {handle : SocketHandle}
    (found : registry.fresh? counter = some (handle, next)) : registry.ring? handle = none := by
  obtain ⟨passed, search, same⟩ := Option.map_eq_some_iff.mp found
  have free := registry.passedOver?_free _ _ _ search
  cases same
  simpa [isLive] using free

end Registry

namespace Host

variable {β : Type}

def socket? (host : Host β) (d : DispatcherId) (handle : SocketHandle) : Option RingId :=
  (host.dispatcher d).registry.ring? handle

def sockets (host : Host β) : List (Registry × UInt32) :=
  host.dispatchers.map fun dispatcher => (dispatcher.registry, dispatcher.nextHandle)

theorem isRegistered_iff {host : Host β} {d : DispatcherId} {handle : SocketHandle} :
    host.isRegistered d handle = true ↔ ∃ ring, host.socket? d handle = some ring :=
  Option.isSome_iff_exists

theorem not_isRegistered_iff {host : Host β} {d : DispatcherId} {handle : SocketHandle} :
    host.isRegistered d handle = false ↔ host.socket? d handle = none := by
  simp [isRegistered, Registry.isLive, socket?]

theorem registry_of_sockets {a b : Host β} (same : a.sockets = b.sockets) (d : DispatcherId) :
    (a.dispatcher d).registry = (b.dispatcher d).registry ∧
      (a.dispatcher d).nextHandle = (b.dispatcher d).nextHandle := by
  have here : a.sockets[d]? = b.sockets[d]? := by rw [same]
  simp only [sockets, List.getElem?_map] at here
  simp only [dispatcher, List.getD_eq_getElem?_getD]
  cases left : a.dispatchers[d]? with
  | none =>
    rw [left] at here
    have right : b.dispatchers[d]? = none := by simpa using here.symm
    simp [right]
  | some one =>
    rw [left] at here
    obtain ⟨other, right, pair⟩ := Option.map_eq_some_iff.mp here.symm
    rw [right]
    simpa using (Prod.mk.inj pair).imp Eq.symm Eq.symm

theorem socket?_of_sockets {a b : Host β} (same : a.sockets = b.sockets) (d : DispatcherId)
    (handle : SocketHandle) : a.socket? d handle = b.socket? d handle := by
  rw [socket?, socket?, (registry_of_sockets same d).1]

theorem length_of_sockets {a b : Host β} (same : a.sockets = b.sockets) :
    a.dispatchers.length = b.dispatchers.length := by
  simpa [sockets] using congrArg List.length same

theorem dispatcher_modifyDispatcher (host : Host β) (d e : DispatcherId)
    (change : Dispatcher → Dispatcher) :
    (host.modifyDispatcher d change).dispatcher e =
      if d = e ∧ d < host.dispatchers.length then change (host.dispatcher d)
      else host.dispatcher e := by
  simp only [dispatcher, modifyDispatcher, List.getD_eq_getElem?_getD, List.getElem?_modify]
  by_cases same : d = e
  · subst same
    by_cases inside : d < host.dispatchers.length
    · simp [inside]
    · simp [inside]
  · simp [same]

theorem map_modifyDispatcher {α : Type} (host : Host β) (d : DispatcherId)
    {change : Dispatcher → Dispatcher} (seen : Dispatcher → α)
    (kept : ∀ dispatcher, seen (change dispatcher) = seen dispatcher) :
    (host.modifyDispatcher d change).dispatchers.map seen = host.dispatchers.map seen := by
  apply List.ext_getElem?
  intro e
  simp only [modifyDispatcher, List.getElem?_map, List.getElem?_modify]
  by_cases same : d = e
  · cases host.dispatchers[e]? with
    | none => simp
    | some dispatcher => simp [same, kept]
  · simp [same]

theorem sockets_modifyDispatcher (host : Host β) (d : DispatcherId)
    (change : Dispatcher → Dispatcher)
    (kept : ∀ dispatcher, (change dispatcher).registry = dispatcher.registry ∧
      (change dispatcher).nextHandle = dispatcher.nextHandle) :
    (host.modifyDispatcher d change).sockets = host.sockets :=
  host.map_modifyDispatcher d (fun dispatcher => (dispatcher.registry, dispatcher.nextHandle))
    fun dispatcher => Prod.ext (kept dispatcher).1 (kept dispatcher).2

theorem sockets_countFrame (host : Host β) (d : DispatcherId) :
    (host.countFrame d).sockets = host.sockets :=
  host.sockets_modifyDispatcher d _ fun _ => ⟨rfl, rfl⟩

theorem sockets_countOutcome (host : Host β) (d : DispatcherId) (disposition : Disposition β) :
    (host.countOutcome d disposition).sockets = host.sockets :=
  host.sockets_modifyDispatcher d _ fun _ => ⟨rfl, rfl⟩

theorem sockets_offer (host : Host β) (d : DispatcherId) (handle : SocketHandle) (payload : β) :
    (host.offer d handle payload).2.sockets = host.sockets := by
  unfold offer
  split
  · rfl
  · split
    · rfl
    · rfl

theorem table_offer (host : Host β) (d : DispatcherId) (handle : SocketHandle) (payload : β) :
    (host.offer d handle payload).2.table = host.table := by
  unfold offer
  split
  · rfl
  · split
    · rfl
    · rfl

theorem sockets_carryOut (host : Host β) (d : DispatcherId) (decision : Decision) (payload : β) :
    (host.carryOut d decision payload).2.sockets = host.sockets := by
  cases decision with
  | redirect handle =>
    exact (sockets_countOutcome _ d _).trans (host.sockets_offer d handle payload)
  | drop => exact host.sockets_countOutcome d _
  | pass => exact host.sockets_countOutcome d _

theorem table_carryOut (host : Host β) (d : DispatcherId) (decision : Decision) (payload : β) :
    (host.carryOut d decision payload).2.table = host.table := by
  cases decision with
  | redirect handle => exact host.table_offer d handle payload
  | drop => rfl
  | pass => rfl

theorem sockets_dispatch (host : Host β) (d : DispatcherId) (frame : Frame β) :
    (host.dispatch d frame).2.sockets = host.sockets :=
  (sockets_carryOut _ d _ _).trans (host.sockets_countFrame d)

theorem table_dispatch (host : Host β) (d : DispatcherId) (frame : Frame β) :
    (host.dispatch d frame).2.table = host.table :=
  table_carryOut _ d _ _

theorem registry_addSocket (host : Host β) {d : DispatcherId} (handle : SocketHandle)
    (next : UInt32) (ring : RingId) (inside : d < host.dispatchers.length) :
    ((host.addSocket d handle next ring).dispatcher d).registry =
      (host.dispatcher d).registry.insert handle ring := by
  simp only [addSocket]
  change ((host.modifyDispatcher d _).dispatcher d).registry = _
  rw [dispatcher_modifyDispatcher, if_pos ⟨rfl, inside⟩]

theorem registry_removeSocket (host : Host β) {d : DispatcherId} (handle : SocketHandle)
    (ring : RingId) (inside : d < host.dispatchers.length) :
    ((host.removeSocket d handle ring).dispatcher d).registry =
      (host.dispatcher d).registry.erase handle := by
  simp only [removeSocket]
  change ((host.modifyDispatcher d _).dispatcher d).registry = _
  rw [dispatcher_modifyDispatcher, if_pos ⟨rfl, inside⟩]

theorem socket?_addSocket (host : Host β) {d : DispatcherId} (handle : SocketHandle)
    (next : UInt32) (ring : RingId) (inside : d < host.dispatchers.length)
    (other : SocketHandle) :
    (host.addSocket d handle next ring).socket? d other =
      if handle = other then some ring else host.socket? d other := by
  rw [socket?, host.registry_addSocket handle next ring inside, Registry.ring?_insert]
  rfl

theorem inside_of_socket? {host : Host β} {d : DispatcherId} {handle : SocketHandle}
    {ring : RingId} (leads : host.socket? d handle = some ring) : d < host.dispatchers.length := by
  rcases Nat.lt_or_ge d host.dispatchers.length with inside | outside
  · exact inside
  · have absent : host.dispatcher d = default := by
      simp [dispatcher, outside]
    rw [socket?, absent] at leads
    cases leads

theorem socket?_removeSocket (host : Host β) {d : DispatcherId} {handle : SocketHandle}
    (ring : RingId) (inside : d < host.dispatchers.length) (other : SocketHandle) :
    (host.removeSocket d handle ring).socket? d other =
      if handle = other then none else host.socket? d other := by
  rw [socket?, host.registry_removeSocket handle ring inside, Registry.ring?_erase]
  rfl

theorem sockets_addSocket (host : Host β) (d : DispatcherId) (handle : SocketHandle)
    (next : UInt32) (ring : RingId) :
    (host.addSocket d handle next ring).sockets =
      host.sockets.modify d fun known => (known.1.insert handle ring, next) := by
  apply List.ext_getElem?
  intro e
  simp only [sockets, addSocket, modifyDispatcher, modifyRing, List.getElem?_map,
    List.getElem?_modify]
  cases host.dispatchers[e]? with
  | none => rfl
  | some dispatcher =>
    by_cases same : d = e
    · simp [same]
    · simp [same]

theorem sockets_removeSocket (host : Host β) (d : DispatcherId) (handle : SocketHandle)
    (ring : RingId) :
    (host.removeSocket d handle ring).sockets =
      host.sockets.modify d fun known => (known.1.erase handle, known.2) := by
  apply List.ext_getElem?
  intro e
  simp only [sockets, removeSocket, modifyDispatcher, modifyRing, List.getElem?_map,
    List.getElem?_modify]
  cases host.dispatchers[e]? with
  | none => rfl
  | some dispatcher =>
    by_cases same : d = e
    · simp [same]
    · simp [same]

theorem table_addSocket (host : Host β) (d : DispatcherId) (handle : SocketHandle)
    (next : UInt32) (ring : RingId) :
    (host.addSocket d handle next ring).table = host.table := rfl

theorem length_addSocket (host : Host β) (d : DispatcherId) (handle : SocketHandle)
    (next : UInt32) (ring : RingId) :
    (host.addSocket d handle next ring).dispatchers.length = host.dispatchers.length := by
  simp [addSocket, modifyDispatcher, modifyRing]

theorem length_removeSocket (host : Host β) (d : DispatcherId) (handle : SocketHandle)
    (ring : RingId) :
    (host.removeSocket d handle ring).dispatchers.length = host.dispatchers.length := by
  simp [removeSocket, modifyDispatcher, modifyRing]

end Host
end RxSteering
