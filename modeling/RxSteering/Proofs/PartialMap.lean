import Mathlib.Data.List.FinRange
import RxSteering.Proofs.TableLookup
import RxSteering.Proofs.Transcript

/-!
The redirect table as a partial map. Whatever is done to a table from the moment it is made, it
answers as a map that gives each queue below the capacity one socket or none. The words in the slots
are what makes it so: a slot is zero, or the number of its handle past the largest handle, so handle
0 is no empty slot and a whole word is compared as its handle would be.
-/
namespace RxSteering

abbrev PartialMap (capacity : UInt32) := Fin capacity.toNat → Option SocketHandle

namespace PartialMap

variable {capacity : UInt32}

def nowhere : PartialMap capacity := fun _ => none

def set (map : PartialMap capacity) (place : Fin capacity.toNat)
    (binding : Option SocketHandle) : PartialMap capacity :=
  fun other => if other = place then binding else map other

def place? (capacity : UInt32) (queue : QueueId) : Option (Fin capacity.toNat) :=
  if inside : queue.index.toNat < capacity.toNat then some ⟨queue.index.toNat, inside⟩ else none

def queueOf (place : Fin capacity.toNat) : QueueId := ⟨UInt32.ofNat place⟩

def bindings (map : PartialMap capacity) : List Binding :=
  (List.finRange capacity.toNat).filterMap fun place => (map place).map (queueOf place, ·)

def size (map : PartialMap capacity) : Nat :=
  (List.finRange capacity.toNat).countP fun place => (map place).isSome

def change (map : PartialMap capacity) (queue : QueueId)
    (act : Fin capacity.toNat → Table.Answer × PartialMap capacity) :
    Table.Answer × PartialMap capacity :=
  match place? capacity queue with
  | some place => act place
  | none => (.refused (.queueOutOfRange queue capacity), map)

def perform (map : PartialMap capacity) : Table.Operation → Table.Answer × PartialMap capacity
  | .lookup queue => (.binding ((place? capacity queue).bind map), map)
  | .update queue handle =>
    map.change queue fun place => (.binding (map place), map.set place (some handle))
  | .delete queue => map.change queue fun place => (.binding (map place), map.set place none)
  | .deleteIf queue handle =>
    map.change queue fun place =>
      if map place = some handle then (.flag true, map.set place none) else (.flag false, map)
  | .clear => (.done, nowhere)
  | .count => (.number map.size, map)
  | .isEmpty => (.flag (decide (∀ place, map place = none)), map)
  | .capacity => (.number capacity.toNat, map)
  | .snapshot => (.bindings map.bindings, map)

theorem toNat_queueOf (place : Fin capacity.toNat) :
    (queueOf place).index.toNat = place := by
  have small : (place : Nat) < UInt32.size := Nat.lt_trans place.isLt capacity.toNat_lt
  exact UInt32.toNat_ofNat_of_lt' small

theorem queueOf_inj {place other : Fin capacity.toNat} :
    queueOf place = queueOf other ↔ place = other := by
  rw [← QueueId.toNat_inj, toNat_queueOf, toNat_queueOf, Fin.val_inj]

theorem place?_inside {queue : QueueId} (inside : queue.index.toNat < capacity.toNat) :
    ∃ place, place? capacity queue = some place ∧ queueOf place = queue := by
  refine ⟨⟨queue.index.toNat, inside⟩, ?_, ?_⟩
  · rw [place?, dif_pos inside]
  · rw [← QueueId.toNat_inj, toNat_queueOf]

theorem place?_outside {queue : QueueId} (outside : capacity.toNat ≤ queue.index.toNat) :
    place? capacity queue = none := by
  rw [place?, dif_neg (Nat.not_lt.mpr outside)]

theorem size_eq_length (map : PartialMap capacity) : map.size = map.bindings.length := by
  rw [bindings, List.length_filterMap_eq_countP, size]
  simp only [Option.isSome_map]

theorem size_eq_zero_iff {map : PartialMap capacity} :
    map.size = 0 ↔ ∀ place, map place = none := by
  simp [size, List.countP_eq_zero]

end PartialMap

open PartialMap

structure Represents {capacity : UInt32} (map : PartialMap capacity) (table : Table) : Prop where
  length : table.slots.length = capacity.toNat
  canonical : table.Canonical
  reads : ∀ place, table.lookup (queueOf place) = map place

namespace Represents

variable {capacity : UInt32} {map : PartialMap capacity} {table : Table}

theorem capacity_eq (represents : Represents map table) : table.capacity = capacity := by
  rw [← UInt32.toNat_inj, table.toNat_capacity, represents.length]

theorem queues_eq (represents : Represents map table) :
    table.queues = (List.finRange capacity.toNat).map queueOf := by
  rw [Table.queues, represents.length, ← List.map_coe_finRange_eq_range, List.map_map]
  rfl

theorem snapshot_eq (represents : Represents map table) : table.snapshot = map.bindings := by
  rw [table.snapshot_eq, represents.queues_eq, List.filterMap_map, bindings]
  apply List.filterMap_congr
  intro place _
  rw [Function.comp_apply, represents.reads]

theorem count_eq (represents : Represents map table) : table.count = map.size := by
  rw [Table.count, represents.snapshot_eq, map.size_eq_length]

theorem isEmpty_eq (represents : Represents map table) :
    table.isEmpty = decide (∀ place, map place = none) := by
  rw [Bool.eq_iff_iff, decide_eq_true_iff, Table.isEmpty, List.all_eq_true]
  constructor
  · intro empty place
    have inside : (queueOf place).index.toNat < table.slots.length := by
      rw [toNat_queueOf, represents.length]
      exact place.isLt
    have unbound := empty _ (List.getElem_mem inside)
    rw [← represents.reads]
    simpa [Table.lookup, Table.slot?, inside] using unbound
  · intro unbound slot member
    obtain ⟨index, inside, rfl⟩ := List.mem_iff_getElem.mp member
    have here := represents.reads ⟨index, represents.length ▸ inside⟩
    rw [unbound, Table.lookup, Table.slot?, toNat_queueOf] at here
    simpa [inside] using here

theorem nowhere {table : Table} (canonical : table.Canonical)
    (length : table.slots.length = capacity.toNat) (unbound : ∀ queue, table.lookup queue = none) :
    Represents (PartialMap.nowhere : PartialMap capacity) table :=
  ⟨length, canonical, fun place => unbound (queueOf place)⟩

theorem clear (represents : Represents map table) :
    Represents (PartialMap.nowhere : PartialMap capacity) table.clear := by
  refine .nowhere (Table.Canonical.clear table) ?_ ?_
  · exact (List.length_map ..).trans represents.length
  · intro queue
    simp only [Table.lookup, Table.slot?, Table.clear, List.getElem?_map]
    cases table.slots[queue.index.toNat]? with
    | none => rfl
    | some slot => rw [Option.map_some, Option.bind_some, Slot.binding?_empty]

theorem put (represents : Represents map table) (place : Fin capacity.toNat) {slot : Slot}
    (fits : slot = .empty ∨ ∃ handle, slot = .bound handle) :
    Represents (map.set place slot.binding?) (table.put (queueOf place) slot) where
  length := (List.length_set ..).trans represents.length
  canonical := represents.canonical.put _ fits
  reads other := by
    have inside : (queueOf place).index.toNat < table.slots.length := by
      rw [toNat_queueOf, represents.length]
      exact place.isLt
    rw [Table.lookup_put_inside inside, represents.reads, PartialMap.set]
    by_cases same : place = other
    · rw [if_pos (queueOf_inj.mpr same), if_pos same.symm]
    · rw [if_neg (mt queueOf_inj.mp same), if_neg (Ne.symm same)]

theorem lookup_eq (represents : Represents map table) (queue : QueueId) :
    table.lookup queue = (place? capacity queue).bind map := by
  rcases Nat.lt_or_ge queue.index.toNat capacity.toNat with inside | outside
  · obtain ⟨place, placed, rfl⟩ := place?_inside inside
    rw [placed, represents.reads]
    rfl
  · rw [place?_outside outside, Table.lookup_outside (by rw [represents.length]; exact outside)]
    rfl

theorem settle {α : Type} (represents : Represents map table) (wrap : α → Table.Answer)
    (queue : QueueId) {result : Except Error (α × Table)}
    {act : Fin capacity.toNat → Table.Answer × PartialMap capacity}
    (refused : table.slots.length ≤ queue.index.toNat →
      result = .error (.queueOutOfRange queue table.capacity))
    (done : ∀ place, queueOf place = queue →
      (table.settle wrap result).1 = (act place).1 ∧
        Represents (act place).2 (table.settle wrap result).2) :
    (table.settle wrap result).1 = (map.change queue act).1 ∧
      Represents (map.change queue act).2 (table.settle wrap result).2 := by
  rcases Nat.lt_or_ge queue.index.toNat capacity.toNat with inside | outside
  · obtain ⟨place, placed, here⟩ := place?_inside inside
    rw [PartialMap.change, placed]
    exact done place here
  · rw [refused (by rw [represents.length]; exact outside), PartialMap.change,
      place?_outside outside, represents.capacity_eq]
    exact ⟨rfl, represents⟩

theorem swap (represents : Represents map table) (queue : QueueId) {slot : Slot}
    (fits : slot = .empty ∨ ∃ handle, slot = .bound handle) :
    let settled := table.settle .binding (table.swap queue slot)
    let changed := map.change queue fun place =>
      (.binding (map place), map.set place slot.binding?)
    settled.1 = changed.1 ∧ Represents changed.2 settled.2 := by
  apply represents.settle .binding queue fun outside => Table.swap_outside outside slot
  rintro place rfl
  have inside : (queueOf place).index.toNat < table.slots.length := by
    rw [toNat_queueOf, represents.length]
    exact place.isLt
  rw [Table.swap_inside inside, represents.reads]
  exact ⟨rfl, represents.put place fits⟩

theorem deleteIf (represents : Represents map table) (queue : QueueId) (handle : SocketHandle) :
    let settled := table.settle .flag (table.deleteIf queue handle)
    let changed := map.change queue fun place =>
      if map place = some handle then (.flag true, map.set place none) else (.flag false, map)
    settled.1 = changed.1 ∧ Represents changed.2 settled.2 := by
  apply represents.settle .flag queue fun outside => Table.deleteIf_outside outside handle
  rintro place rfl
  have inside : (queueOf place).index.toNat < table.slots.length := by
    rw [toNat_queueOf, represents.length]
    exact place.isLt
  rw [represents.canonical.deleteIf_inside inside, represents.reads, Table.release,
    represents.reads]
  by_cases bound : map place = some handle
  · rw [if_pos bound, if_pos bound, decide_eq_true bound]
    exact ⟨rfl, represents.put place (.inl rfl)⟩
  · rw [if_neg bound, if_neg bound, decide_eq_false bound]
    exact ⟨rfl, represents⟩

theorem perform (represents : Represents map table) (operation : Table.Operation) :
    (table.perform operation).1 = (map.perform operation).1 ∧
      Represents (map.perform operation).2 (table.perform operation).2 := by
  cases operation with
  | lookup queue => exact ⟨congrArg Table.Answer.binding (represents.lookup_eq queue), represents⟩
  | update queue handle =>
    have swapped := represents.swap queue (.inr ⟨handle, rfl⟩)
    rw [Slot.binding?_bound] at swapped
    exact swapped
  | delete queue => exact represents.swap queue (.inl rfl)
  | deleteIf queue handle => exact represents.deleteIf queue handle
  | clear => exact ⟨rfl, represents.clear⟩
  | count => exact ⟨congrArg Table.Answer.number represents.count_eq, represents⟩
  | isEmpty => exact ⟨congrArg Table.Answer.flag represents.isEmpty_eq, represents⟩
  | capacity =>
    refine ⟨congrArg Table.Answer.number ?_, represents⟩
    rw [represents.capacity_eq]
  | snapshot => exact ⟨congrArg Table.Answer.bindings represents.snapshot_eq, represents⟩

end Represents

/-- The word of a canonical slot is zero, or its handle past the largest handle. -/
theorem Table.Canonical.word_eq {table : Table} (canonical : table.Canonical) {slot : Slot}
    (member : slot ∈ table.slots) :
    slot.word.toNat = 0 ∨
      ∃ handle : SocketHandle, slot.word.toNat = UInt32.size + handle.id.toNat := by
  rcases canonical slot member with rfl | ⟨handle, rfl⟩
  · exact .inl rfl
  · exact .inr ⟨handle, Slot.toNat_word_bound handle⟩

/-- All that can be read from a table that stands for this map. -/
structure Table.Shows {capacity : UInt32} (table : Table) (map : PartialMap capacity) : Prop where
  capacity_eq : table.capacity = capacity
  inside : ∀ place, table.lookup (queueOf place) = map place
  outside : ∀ queue, capacity ≤ queue.index → table.lookup queue = none
  listed : ∀ queue handle, (queue, handle) ∈ table.snapshot ↔ table.lookup queue = some handle
  ascending : table.snapshot.Pairwise fun first second => first.1.index < second.1.index
  count : table.count = table.snapshot.length
  empty : table.isEmpty = true ↔ table.count = 0
  words : ∀ slot ∈ table.slots, slot.word.toNat = 0 ∨
    ∃ handle : SocketHandle, slot.word.toNat = UInt32.size + handle.id.toNat
  /-- comparing whole words decides the same as reading the slot -/
  compared : ∀ slot ∈ table.slots, ∀ handle, slot = .bound handle ↔ slot.binding? = some handle

theorem Represents.shows {capacity : UInt32} {map : PartialMap capacity} {table : Table}
    (represents : Represents map table) : table.Shows map where
  capacity_eq := represents.capacity_eq
  inside := represents.reads
  outside queue outside := by
    apply Table.lookup_outside
    rw [represents.length]
    exact UInt32.le_iff_toNat_le.mp outside
  listed queue handle := Table.mem_snapshot
  ascending := table.snapshot_ascending
  count := rfl
  empty := by
    rw [represents.isEmpty_eq, represents.count_eq, decide_eq_true_iff, size_eq_zero_iff]
  words slot member := represents.canonical.word_eq member
  compared slot member handle := (represents.canonical.binding?_eq_iff member handle).symm

/-- From the moment it is made a table answers as a partial map from the queues below its capacity
to handles. -/
theorem answers_as_partial_map {capacity : UInt32} {table : Table}
    (made : Table.ofCapacity capacity = .ok table) (operations : List Table.Operation) :
    let real := answersTo Table.perform table operations
    let ideal := answersTo PartialMap.perform (nowhere : PartialMap capacity) operations
    real.1 = ideal.1 ∧ real.2.Shows ideal.2 := by
  intro real ideal
  have start : Represents (nowhere : PartialMap capacity) table :=
    .nowhere (Table.Canonical.ofCapacity made) (Table.length_ofCapacity made)
      (Table.lookup_ofCapacity made)
  have step (table : Table) (map : PartialMap capacity) (operation : Table.Operation)
      (represents : Represents map table) := represents.perform operation
  obtain ⟨answers, represents⟩ := answersTo_of_step step start operations
  exact ⟨answers, represents.shows⟩

/-- The least handle and the largest one, a queue past the end, and a removal that does not fit. -/
def extremes : List Table.Operation :=
  [.update ⟨1⟩ ⟨0⟩, .update ⟨0⟩ ⟨4294967295⟩, .update ⟨2⟩ ⟨7⟩, .deleteIf ⟨1⟩ ⟨5⟩, .count, .snapshot,
    .deleteIf ⟨0⟩ ⟨4294967295⟩, .delete ⟨1⟩, .isEmpty]

theorem extremes_answer_as_partial_map :
    ∃ table, Table.ofCapacity 2 = .ok table ∧
      (answersTo Table.perform table extremes).1 =
        [.binding none, .binding none, .refused (.queueOutOfRange ⟨2⟩ 2), .flag false, .number 2,
          .bindings [(⟨0⟩, ⟨4294967295⟩), (⟨1⟩, ⟨0⟩)], .flag true, .binding (some ⟨0⟩),
          .flag true] := by
  have made : Table.ofCapacity 2 = .ok ⟨[.empty, .empty], by decide, by decide⟩ := rfl
  refine ⟨_, made, ?_⟩
  rw [(answers_as_partial_map made extremes).1]
  decide

end RxSteering
