import RxSteering.Error
import RxSteering.Slot

/-!
The redirect table: one slot for each receive queue, between one and `maxCapacity` of them for as
long as the table lives. Each change touches one slot and answers what was there before; a queue
outside the table is refused and nothing changes.
-/
namespace RxSteering

open Text

structure Table where
  slots : List Slot
  length_pos : 0 < slots.length
  length_le : slots.length ≤ maxCapacity.toNat
  deriving DecidableEq, Repr

abbrev Binding := QueueId × SocketHandle

namespace Table

def ofCapacity (capacity : UInt32) : Except Error Table :=
  if accepted : 0 < capacity.toNat ∧ capacity.toNat ≤ maxCapacity.toNat then
    .ok { slots := List.replicate capacity.toNat Slot.empty
          length_pos := by simpa using accepted.1
          length_le := by simpa using accepted.2 }
  else .error (.invalidCapacity capacity)

def unbound : Table where
  slots := List.replicate maxCapacity.toNat Slot.empty
  length_pos := by decide
  length_le := by simp

instance : Inhabited Table := ⟨unbound⟩

def capacity (table : Table) : UInt32 := UInt32.ofNat table.slots.length

theorem toNat_capacity (table : Table) : table.capacity.toNat = table.slots.length := by
  have bound : table.slots.length ≤ 64 := table.length_le
  exact UInt32.toNat_ofNat_of_lt' (by simp only [UInt32.size]; omega)

def slot? (table : Table) (queue : QueueId) : Option Slot := table.slots[queue.index.toNat]?

def lookup (table : Table) (queue : QueueId) : Option SocketHandle :=
  (table.slot? queue).bind Slot.binding?

def put (table : Table) (queue : QueueId) (slot : Slot) : Table where
  slots := table.slots.set queue.index.toNat slot
  length_pos := by simpa using table.length_pos
  length_le := by simpa using table.length_le

theorem slot?_put (table : Table) (queue other : QueueId) (slot : Slot) :
    (table.put queue slot).slot? other =
      if queue = other then (table.slot? queue).map fun _ => slot else table.slot? other := by
  by_cases same : queue = other
  · subst same
    by_cases inside : queue.index.toNat < table.slots.length
    · simp [slot?, put, inside]
    · simp [slot?, put, Nat.le_of_not_lt inside]
  · have apart : queue.index.toNat ≠ other.index.toNat := mt QueueId.toNat_inj.mp same
    simp [slot?, put, List.getElem?_set_ne apart, same]

theorem lookup_put (table : Table) (queue other : QueueId) (slot : Slot) :
    (table.put queue slot).lookup other =
      if queue = other then (table.slot? queue).bind fun _ => slot.binding?
      else table.lookup other := by
  unfold lookup
  rw [slot?_put]
  split
  · cases table.slot? queue <;> rfl
  · rfl

theorem capacity_put (table : Table) (queue : QueueId) (slot : Slot) :
    (table.put queue slot).capacity = table.capacity := by
  simp [capacity, put]

def swap (table : Table) (queue : QueueId) (slot : Slot) :
    Except Error (Option SocketHandle × Table) :=
  match table.slot? queue with
  | some old => .ok (old.binding?, table.put queue slot)
  | none => .error (.queueOutOfRange queue table.capacity)

def update (table : Table) (queue : QueueId) (handle : SocketHandle) :
    Except Error (Option SocketHandle × Table) :=
  table.swap queue (.bound handle)

def delete (table : Table) (queue : QueueId) : Except Error (Option SocketHandle × Table) :=
  table.swap queue .empty

/-- Unbinds the queue if its slot holds this very handle, and says whether it did. -/
def deleteIf (table : Table) (queue : QueueId) (handle : SocketHandle) :
    Except Error (Bool × Table) :=
  match table.slot? queue with
  | some slot =>
    if slot = .bound handle then .ok (true, table.put queue .empty) else .ok (false, table)
  | none => .error (.queueOutOfRange queue table.capacity)

def clear (table : Table) : Table where
  slots := table.slots.map fun _ => .empty
  length_pos := by simpa using table.length_pos
  length_le := by simpa using table.length_le

def bindingsFrom : Nat → List Slot → List Binding
  | _, [] => []
  | index, slot :: rest =>
    match slot.binding? with
    | some handle => (⟨UInt32.ofNat index⟩, handle) :: bindingsFrom (index + 1) rest
    | none => bindingsFrom (index + 1) rest

def snapshot (table : Table) : List Binding := bindingsFrom 0 table.slots

def count (table : Table) : Nat := table.snapshot.length

def isEmpty (table : Table) : Bool := table.slots.all fun slot => slot.binding?.isNone

def queues (table : Table) : List QueueId :=
  (List.range table.slots.length).map fun index => ⟨UInt32.ofNat index⟩

theorem length_queues_le (table : Table) : table.queues.length ≤ maxCapacity.toNat := by
  simpa [queues] using table.length_le

instance : Inspect Table where
  layout table := .record "RedirectTable"
    [("capacity", Inspect.layout table.capacity), ("bindings", Inspect.layout table.snapshot)]

inductive Operation where
  | lookup (queue : QueueId)
  | update (queue : QueueId) (handle : SocketHandle)
  | delete (queue : QueueId)
  | deleteIf (queue : QueueId) (handle : SocketHandle)
  | clear
  | count
  | isEmpty
  | capacity
  | snapshot
  deriving DecidableEq, Repr

inductive Answer where
  /-- the binding that was found, replaced or removed -/
  | binding (handle : Option SocketHandle)
  | flag (value : Bool)
  | done
  | number (value : Nat)
  | bindings (list : List Binding)
  | refused (error : Error)
  deriving DecidableEq, Repr

def settle {α : Type} (table : Table) (wrap : α → Answer) :
    Except Error (α × Table) → Answer × Table
  | .ok (value, changed) => (wrap value, changed)
  | .error error => (.refused error, table)

def perform (table : Table) : Operation → Answer × Table
  | .lookup queue => (.binding (table.lookup queue), table)
  | .update queue handle => table.settle .binding (table.update queue handle)
  | .delete queue => table.settle .binding (table.delete queue)
  | .deleteIf queue handle => table.settle .flag (table.deleteIf queue handle)
  | .clear => (.done, table.clear)
  | .count => (.number table.count, table)
  | .isEmpty => (.flag table.isEmpty, table)
  | .capacity => (.number table.capacity.toNat, table)
  | .snapshot => (.bindings table.snapshot, table)

end Table
end RxSteering
