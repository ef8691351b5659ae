import RxSteering.Proofs.Sockets
import RxSteering.Proofs.TableLookup

/-!
What each single step of a call does, by what it finds: the socket live or gone, the queue inside
the table or outside, the slot still bound to the socket or not.
-/
namespace RxSteering.Host

variable {β : Type} {host : Host β} {d : DispatcherId} {queue : QueueId} {handle : SocketHandle}

theorem register_found {next : UInt32}
    (found : (host.dispatcher d).registry.fresh? (host.dispatcher d).nextHandle =
      some (handle, next)) (ring : RingId) :
    host.register d ring =
      { host := host.addSocket d handle next ring
        record := some (.registered handle)
        progress := .finished (.registered handle) } := by
  rw [register, found]

theorem register_full
    (full : (host.dispatcher d).registry.fresh? (host.dispatcher d).nextHandle = none)
    (ring : RingId) :
    host.register d ring = { host := host, progress := .finished .unanswered } := by
  rw [register, full]

theorem beginUnregister_live {ring : RingId} (leads : host.socket? d handle = some ring) :
    host.beginUnregister d handle =
      { host := host.removeSocket d handle ring
        progress := .ongoing (.scan handle host.table.queues []) } := by
  have found : (host.dispatcher d).registry.ring? handle = some ring := leads
  rw [beginUnregister, found]

theorem beginUnregister_unknown (unknown : host.socket? d handle = none) :
    host.beginUnregister d handle =
      { host := host, progress := .finished (.unregistered false) } := by
  have absent : (host.dispatcher d).registry.ring? handle = none := unknown
  rw [beginUnregister, absent]

theorem beginBind_live (live : host.isRegistered d handle = true) (queue : QueueId) :
    host.beginBind d queue handle =
      { host := host, progress := .ongoing (.publish queue handle) } := by
  rw [beginBind, if_pos live]

theorem beginBind_unknown (unknown : host.isRegistered d handle = false) (queue : QueueId) :
    host.beginBind d queue handle =
      { host := host, progress := .finished (.refused (.unknownSocket handle)) } := by
  rw [beginBind, unknown]
  rfl

theorem publish_inside (inside : queue.index.toNat < host.table.slots.length)
    (handle : SocketHandle) :
    host.publish queue handle =
      { host := host.withTable (host.table.put queue (.bound handle))
        progress := .ongoing (.confirm queue handle (host.table.lookup queue)) } := by
  rw [publish, Table.update, Table.swap_inside inside]

theorem publish_outside (outside : host.table.slots.length ≤ queue.index.toNat)
    (handle : SocketHandle) :
    host.publish queue handle =
      { host := host
        progress := .finished (.refused (.queueOutOfRange queue host.table.capacity)) } := by
  rw [publish, Table.update, Table.swap_outside outside]

theorem confirm_live (live : host.isRegistered d handle = true) (queue : QueueId)
    (previous : Option SocketHandle) :
    host.confirm d queue handle previous =
      { host := host
        record := some (.bound queue handle previous)
        progress := .finished (.bound previous) } := by
  rw [confirm, if_pos live]

theorem confirm_gone (gone : host.isRegistered d handle = false) (queue : QueueId)
    (previous : Option SocketHandle) :
    host.confirm d queue handle previous =
      { host := host, progress := .ongoing (.retract queue handle) } := by
  rw [confirm, gone]
  rfl

theorem unbind_inside (inside : queue.index.toNat < host.table.slots.length) :
    host.unbind queue =
      { host := host.withTable (host.table.put queue .empty)
        record := (host.table.lookup queue).map (.unbound queue)
        progress := .finished (.unbound (host.table.lookup queue)) } := by
  rw [unbind, Table.delete, Table.swap_inside inside]

theorem unbind_outside (outside : host.table.slots.length ≤ queue.index.toNat) :
    host.unbind queue =
      { host := host
        progress := .finished (.refused (.queueOutOfRange queue host.table.capacity)) } := by
  rw [unbind, Table.delete, Table.swap_outside outside]

theorem abandon_bound (canonical : host.table.Canonical)
    (bound : host.table.lookup queue = some handle) (progress : Progress) :
    host.abandon queue handle progress =
      { host := host.withTable (host.table.release queue handle)
        record := some (.abandoned queue handle)
        progress := progress } := by
  unfold abandon
  rw [canonical.deleteIf_inside (Table.inside_of_lookup bound), decide_eq_true bound]

theorem abandon_unbound (canonical : host.table.Canonical) (inside : queue ∈ host.table.queues)
    (unbound : host.table.lookup queue ≠ some handle) (progress : Progress) :
    host.abandon queue handle progress = { host := host, progress := progress } := by
  unfold abandon
  rw [canonical.deleteIf_inside (Table.mem_queues.mp inside), decide_eq_false unbound,
    Table.release, if_neg unbound]
  rfl

theorem abandon_outside (outside : host.table.slots.length ≤ queue.index.toNat)
    (handle : SocketHandle) (progress : Progress) :
    host.abandon queue handle progress =
      { host := host
        record := some (.notAbandoned queue handle (.queueOutOfRange queue host.table.capacity))
        progress := progress } := by
  rw [abandon, Table.deleteIf_outside outside]

theorem host_abandon (canonical : host.table.Canonical) (queue : QueueId) (handle : SocketHandle)
    (progress : Progress) :
    (host.abandon queue handle progress).host =
      host.withTable (host.table.release queue handle) := by
  by_cases bound : host.table.lookup queue = some handle
  · rw [abandon_bound canonical bound]
  · rw [Table.release, if_neg bound]
    rcases Nat.lt_or_ge queue.index.toNat host.table.slots.length with inside | outside
    · rw [abandon_unbound canonical (Table.mem_queues.mpr inside) bound]
      rfl
    · rw [abandon_outside outside]
      rfl

theorem step_sweep (d : DispatcherId) (host : Host β) (handle : SocketHandle) (queue : QueueId)
    (owed : List QueueId) :
    host.step d (.sweep handle (queue :: owed)) =
      { host := (host.abandon queue handle (.ongoing (.sweep handle owed))).host
        record := (host.abandon queue handle (.ongoing (.sweep handle owed))).record
        progress := .ongoing (.sweep handle owed) } := by
  have goes := host.progress_abandon queue handle (.ongoing (.sweep handle owed))
  change host.abandon queue handle (.ongoing (.sweep handle owed)) = _
  cases cleared : host.abandon queue handle (.ongoing (.sweep handle owed)) with
  | mk after record progress =>
    rw [cleared] at goes
    cases goes
    rfl

end RxSteering.Host
