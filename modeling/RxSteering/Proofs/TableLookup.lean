import Mathlib.Data.List.Basic
import RxSteering.Table

/-!
The redirect table seen through its lookups: what each change does to the binding of every queue,
and what it takes for the comparison of whole words in `deleteIf` to decide the same as a lookup.
-/
namespace RxSteering

def Slot.without (slot : Slot) (handle : SocketHandle) : Slot :=
  if slot.binding? = some handle then .empty else slot

theorem Slot.binding?_without (slot : Slot) (handle : SocketHandle) :
    (slot.without handle).binding? =
      if slot.binding? = some handle then none else slot.binding? := by
  unfold without
  split
  · rfl
  · rfl

theorem Slot.without_bound_of_ne {handle other : SocketHandle} (apart : other ≠ handle) :
    (bound other).without handle = bound other := by
  unfold without
  rw [binding?_bound, if_neg (by simpa using apart)]

theorem Slot.without_empty (handle : SocketHandle) : empty.without handle = empty := rfl

namespace Table

def Canonical (table : Table) : Prop :=
  ∀ slot ∈ table.slots, slot = .empty ∨ ∃ handle, slot = .bound handle

def clearSocket (table : Table) (handle : SocketHandle) : Table where
  slots := table.slots.map fun slot => slot.without handle
  length_pos := by simpa using table.length_pos
  length_le := by simpa using table.length_le

def release (table : Table) (queue : QueueId) (handle : SocketHandle) : Table :=
  if table.lookup queue = some handle then table.put queue .empty else table

theorem eq_of_slots {a b : Table} (same : a.slots = b.slots) : a = b := by
  cases a
  cases b
  simpa using same

theorem toNat_ofNat_of_inside {table : Table} {index : Nat}
    (inside : index < table.slots.length) : (UInt32.ofNat index).toNat = index := by
  have bound : table.slots.length ≤ 64 := table.length_le
  exact UInt32.toNat_ofNat_of_lt' (by simp only [UInt32.size]; omega)

theorem mem_queues {table : Table} {queue : QueueId} :
    queue ∈ table.queues ↔ queue.index.toNat < table.slots.length := by
  simp only [queues, List.mem_map, List.mem_range]
  constructor
  · rintro ⟨index, inside, rfl⟩
    change (UInt32.ofNat index).toNat < table.slots.length
    rw [toNat_ofNat_of_inside inside]
    exact inside
  · intro inside
    exact ⟨queue.index.toNat, inside, by simp⟩

theorem queues_ascending (table : Table) :
    table.queues.Pairwise fun first second => first.index < second.index := by
  rw [queues, List.pairwise_map]
  apply List.pairwise_lt_range.imp_of_mem
  intro first second firstInside secondInside ascending
  rw [List.mem_range] at firstInside secondInside
  rw [UInt32.lt_iff_toNat_lt, toNat_ofNat_of_inside firstInside,
    toNat_ofNat_of_inside secondInside]
  exact ascending

theorem slot?_eq_none_iff {table : Table} {queue : QueueId} :
    table.slot? queue = none ↔ table.slots.length ≤ queue.index.toNat := by
  simp [slot?]

theorem lt_capacity_iff {table : Table} {queue : QueueId} :
    queue.index < table.capacity ↔ queue.index.toNat < table.slots.length := by
  rw [UInt32.lt_iff_toNat_lt, toNat_capacity]

theorem lookup_outside {table : Table} {queue : QueueId}
    (outside : table.slots.length ≤ queue.index.toNat) : table.lookup queue = none := by
  simp [lookup, slot?_eq_none_iff.mpr outside]

theorem inside_of_lookup {table : Table} {queue : QueueId} {handle : SocketHandle}
    (bound : table.lookup queue = some handle) : queue.index.toNat < table.slots.length := by
  rcases Nat.lt_or_ge queue.index.toNat table.slots.length with inside | outside
  · exact inside
  · rw [lookup_outside outside] at bound
    cases bound

theorem lookup_put_inside {table : Table} {queue : QueueId}
    (inside : queue.index.toNat < table.slots.length) (other : QueueId) (slot : Slot) :
    (table.put queue slot).lookup other =
      if queue = other then slot.binding? else table.lookup other := by
  rw [lookup_put]
  have present : table.slot? queue = some table.slots[queue.index.toNat] := by
    simp [slot?, inside]
  rw [present]
  rfl

theorem swap_inside {table : Table} {queue : QueueId}
    (inside : queue.index.toNat < table.slots.length) (slot : Slot) :
    table.swap queue slot = .ok (table.lookup queue, table.put queue slot) := by
  have present : table.slot? queue = some table.slots[queue.index.toNat] := by
    simp [slot?, inside]
  simp [swap, lookup, present]

theorem swap_outside {table : Table} {queue : QueueId}
    (outside : table.slots.length ≤ queue.index.toNat) (slot : Slot) :
    table.swap queue slot = .error (.queueOutOfRange queue table.capacity) := by
  simp [swap, slot?_eq_none_iff.mpr outside]

theorem deleteIf_outside {table : Table} {queue : QueueId}
    (outside : table.slots.length ≤ queue.index.toNat) (handle : SocketHandle) :
    table.deleteIf queue handle = .error (.queueOutOfRange queue table.capacity) := by
  simp [deleteIf, slot?_eq_none_iff.mpr outside]

theorem lookup_release (table : Table) (queue other : QueueId) (handle : SocketHandle) :
    (table.release queue handle).lookup other =
      if queue = other ∧ table.lookup queue = some handle then none else table.lookup other := by
  unfold release
  by_cases bound : table.lookup queue = some handle
  · rw [if_pos bound, lookup_put_inside (inside_of_lookup bound)]
    simp [bound, Slot.binding?_empty]
  · simp [bound]

theorem lookup_release_ne (table : Table) (queue : QueueId) (handle : SocketHandle) :
    (table.release queue handle).lookup queue ≠ some handle := by
  rw [lookup_release]
  split
  · simp
  next kept => simpa using kept

theorem lookup_clearSocket (table : Table) (handle : SocketHandle) (queue : QueueId) :
    (table.clearSocket handle).lookup queue =
      if table.lookup queue = some handle then none else table.lookup queue := by
  unfold lookup slot? clearSocket
  rw [List.getElem?_map]
  cases table.slots[queue.index.toNat]? with
  | none => rfl
  | some slot => exact slot.binding?_without handle

theorem queues_clearSocket (table : Table) (handle : SocketHandle) :
    (table.clearSocket handle).queues = table.queues := by
  simp [queues, clearSocket]

theorem clearSocket_put (table : Table) (queue : QueueId) (slot : Slot) (handle : SocketHandle) :
    (table.put queue slot).clearSocket handle =
      (table.clearSocket handle).put queue (slot.without handle) := by
  apply eq_of_slots
  simp [clearSocket, put, List.map_set]

theorem clearSocket_of_unbound {table : Table} {handle : SocketHandle}
    (unbound : ∀ queue, table.lookup queue ≠ some handle) : table.clearSocket handle = table := by
  apply eq_of_slots
  apply List.ext_getElem?
  intro index
  simp only [clearSocket, List.getElem?_map]
  cases here : table.slots[index]? with
  | none => rfl
  | some slot =>
    have inside : index < table.slots.length := (List.getElem?_eq_some_iff.mp here).1
    have apart := unbound ⟨UInt32.ofNat index⟩
    simp only [lookup, slot?, toNat_ofNat_of_inside inside, here, Option.bind_some] at apart
    simp [Slot.without, apart]

theorem clearSocket_release (table : Table) (queue : QueueId) (handle : SocketHandle) :
    (table.release queue handle).clearSocket handle = table.clearSocket handle := by
  unfold release
  split
  next bound =>
    rw [clearSocket_put, Slot.without_empty]
    apply eq_of_slots
    have inside := inside_of_lookup bound
    have cleared : (table.clearSocket handle).slots[queue.index.toNat]? = some .empty := by
      have here : table.slots[queue.index.toNat].binding? = some handle := by
        simpa [lookup, slot?, inside] using bound
      simp [clearSocket, inside, Slot.without, here]
    obtain ⟨within, same⟩ := List.getElem?_eq_some_iff.mp cleared
    change (table.clearSocket handle).slots.set queue.index.toNat .empty = _
    rw [← same, List.set_getElem_self]
  next => rfl

theorem clearSocket_release_of_ne (table : Table) (queue : QueueId)
    {handle other : SocketHandle} (apart : other ≠ handle) :
    (table.release queue other).clearSocket handle =
      (table.clearSocket handle).release queue other := by
  have same : (table.clearSocket handle).lookup queue = some other ↔
      table.lookup queue = some other := by
    rw [lookup_clearSocket]
    constructor
    · intro bound
      split at bound
      · cases bound
      · exact bound
    · intro bound
      rw [bound, if_neg (by simpa using apart)]
  unfold release
  by_cases bound : table.lookup queue = some other
  · rw [if_pos bound, if_pos (same.mpr bound), clearSocket_put, Slot.without_empty]
  · rw [if_neg bound, if_neg (mt same.mp bound)]

def releaseAll (table : Table) (handle : SocketHandle) (owed : List QueueId) : Table :=
  owed.foldl (fun table queue => table.release queue handle) table

theorem clearSocket_releaseAll (table : Table) (handle : SocketHandle) (owed : List QueueId) :
    (table.releaseAll handle owed).clearSocket handle = table.clearSocket handle := by
  induction owed generalizing table with
  | nil => rfl
  | cons queue owed ih => exact (ih _).trans (table.clearSocket_release queue handle)

theorem lookup_releaseAll (table : Table) (handle : SocketHandle) (owed : List QueueId)
    (queue : QueueId) :
    (table.releaseAll handle owed).lookup queue =
      if queue ∈ owed ∧ table.lookup queue = some handle then none else table.lookup queue := by
  induction owed generalizing table with
  | nil => simp [releaseAll]
  | cons first owed ih =>
    have step := ih (table.release first handle)
    rw [lookup_release] at step
    refine Eq.trans step ?_
    by_cases same : first = queue
    · subst same
      by_cases bound : table.lookup first = some handle
      · simp [bound]
      · simp [bound]
    · simp [same, Ne.symm same]

/-- Clearing the queues of a socket one by one ends as clearing them at once. -/
theorem releaseAll_eq_clearSocket {table : Table} {handle : SocketHandle} {owed : List QueueId}
    (all : ∀ queue, table.lookup queue = some handle → queue ∈ owed) :
    table.releaseAll handle owed = table.clearSocket handle := by
  rw [← table.clearSocket_releaseAll handle owed]
  apply (clearSocket_of_unbound _).symm
  intro queue bound
  rw [lookup_releaseAll] at bound
  split at bound
  · cases bound
  next kept => exact kept ⟨all queue bound, bound⟩

theorem bindingsFrom_eq (start : Nat) (slots : List Slot) :
    bindingsFrom start slots = (List.range slots.length).filterMap fun index =>
      (slots[index]?.bind Slot.binding?).map (⟨UInt32.ofNat (start + index)⟩, ·) := by
  induction slots generalizing start with
  | nil => rfl
  | cons slot rest ih =>
    have shift (index : Nat) : start + 1 + index = start + (index + 1) := by omega
    rw [List.length_cons, List.range_succ_eq_map, List.filterMap_cons, List.filterMap_map,
      bindingsFrom, ih]
    cases here : slot.binding? with
    | none => simp [here, shift]
    | some handle => simp [here, shift]

theorem snapshot_eq (table : Table) :
    table.snapshot = table.queues.filterMap fun queue => (table.lookup queue).map (queue, ·) := by
  rw [snapshot, bindingsFrom_eq, queues, List.filterMap_map]
  apply List.filterMap_congr
  intro index inside
  simp only [Function.comp_apply, lookup, slot?, Nat.zero_add]
  rw [toNat_ofNat_of_inside (List.mem_range.mp inside)]

theorem mem_snapshot {table : Table} {queue : QueueId} {handle : SocketHandle} :
    (queue, handle) ∈ table.snapshot ↔ table.lookup queue = some handle := by
  rw [snapshot_eq, List.mem_filterMap]
  constructor
  · rintro ⟨other, -, found⟩
    obtain ⟨_, bound, same⟩ := Option.map_eq_some_iff.mp found
    cases same
    exact bound
  · intro bound
    exact ⟨queue, mem_queues.mpr (inside_of_lookup bound), by rw [bound]; rfl⟩

theorem snapshot_ascending (table : Table) :
    table.snapshot.Pairwise fun first second => first.1.index < second.1.index := by
  rw [snapshot_eq, List.pairwise_filterMap]
  apply table.queues_ascending.imp
  intro first second ascending binding found later follows
  obtain ⟨_, _, rfl⟩ := Option.map_eq_some_iff.mp found
  obtain ⟨_, _, rfl⟩ := Option.map_eq_some_iff.mp follows
  exact ascending

namespace Canonical

theorem binding?_eq_iff {table : Table} (canonical : table.Canonical) {slot : Slot}
    (member : slot ∈ table.slots) (handle : SocketHandle) :
    slot.binding? = some handle ↔ slot = .bound handle := by
  rcases canonical slot member with rfl | ⟨other, rfl⟩
  · constructor
    · intro bound
      rw [Slot.binding?_empty] at bound
      cases bound
    · intro same
      rw [same, Slot.binding?_bound]
  · rw [Slot.binding?_bound, Slot.bound_inj, Option.some_inj]

/-- Comparing whole words decides the same as looking the queue up. -/
theorem deleteIf_inside {table : Table} (canonical : table.Canonical) {queue : QueueId}
    (inside : queue.index.toNat < table.slots.length) (handle : SocketHandle) :
    table.deleteIf queue handle =
      .ok (decide (table.lookup queue = some handle), table.release queue handle) := by
  have present : table.slot? queue = some table.slots[queue.index.toNat] := by
    simp [slot?, inside]
  have decides := canonical.binding?_eq_iff (List.getElem_mem inside) handle
  have seen : table.lookup queue = table.slots[queue.index.toNat].binding? := by
    simp [lookup, present]
  unfold deleteIf release
  rw [present, seen]
  by_cases bound : table.slots[queue.index.toNat].binding? = some handle
  · simp [decides.mp bound, Slot.binding?_bound]
  · simp [bound, mt decides.mpr bound]

theorem put {table : Table} (canonical : table.Canonical) (queue : QueueId) {slot : Slot}
    (fits : slot = .empty ∨ ∃ handle, slot = .bound handle) :
    (table.put queue slot).Canonical := by
  intro other member
  rcases List.mem_or_eq_of_mem_set member with old | rfl
  · exact canonical other old
  · exact fits

theorem release {table : Table} (canonical : table.Canonical) (queue : QueueId)
    (handle : SocketHandle) : (table.release queue handle).Canonical := by
  unfold Table.release
  split
  · exact canonical.put queue (.inl rfl)
  · exact canonical

theorem clearSocket {table : Table} (canonical : table.Canonical) (handle : SocketHandle) :
    (table.clearSocket handle).Canonical := by
  intro slot member
  obtain ⟨old, present, rfl⟩ := List.mem_map.mp member
  unfold Slot.without
  split
  · exact .inl rfl
  · exact canonical old present

theorem clear (table : Table) : table.clear.Canonical := by
  intro slot member
  obtain ⟨_, _, rfl⟩ := List.mem_map.mp member
  exact .inl rfl

theorem ofCapacity {capacity : UInt32} {table : Table}
    (made : Table.ofCapacity capacity = .ok table) : table.Canonical := by
  unfold Table.ofCapacity at made
  split at made
  · cases made
    intro slot member
    exact .inl (List.eq_of_mem_replicate member)
  · cases made

end Canonical

theorem length_ofCapacity {capacity : UInt32} {table : Table}
    (made : ofCapacity capacity = .ok table) : table.slots.length = capacity.toNat := by
  unfold ofCapacity at made
  split at made
  · cases made
    exact List.length_replicate
  · cases made

theorem lookup_ofCapacity {capacity : UInt32} {table : Table}
    (made : ofCapacity capacity = .ok table) (queue : QueueId) : table.lookup queue = none := by
  unfold ofCapacity at made
  split at made
  · cases made
    simp only [lookup, slot?, List.getElem?_replicate]
    split
    · rfl
    · rfl
  · cases made

end Table
end RxSteering
