import RxSteering.Proofs.KernelAgreement
import RxSteering.Proofs.Transcript

/-!
What the answer to a delete on a loaded program tells. The kernel takes a delete of an empty slot
for a success, so the answer is always that something was removed. It is right just when an accepted
update has bound the queue and no delete has followed it, which is also when a table with the same
history had something to remove.
-/
namespace RxSteering

open Table

inductive SlotCall where
  | update (queue : QueueId) (descriptor : Int) (isSocket : Bool)
  | delete (queue : QueueId)
  deriving DecidableEq, Repr

inductive SlotAnswer where
  | accepted
  | removed (value : Bool)
  | refused (error : Error)
  deriving DecidableEq, Repr

def LoadedProgram.answerSlot (program : LoadedProgram) : SlotCall → SlotAnswer × LoadedProgram
  | .update queue descriptor isSocket =>
    match program.update queue descriptor isSocket with
    | .ok (_, after) => (.accepted, after)
    | .error error => (.refused error, program)
  | .delete queue =>
    match program.delete queue with
    | .ok (removed, _, after) => (.removed removed, after)
    | .error error => (.refused error, program)

/-- The same change of a table: an update only if it was accepted. -/
def SlotCall.onTable? (numbered : Int → SocketHandle) : SlotCall × SlotAnswer → Option Operation
  | (.update queue descriptor _, .accepted) => some (.update queue (numbered descriptor))
  | (.update .., _) => none
  | (.delete queue, _) => some (.delete queue)

/-- What calls on a loaded program came to: the updates that were accepted and the deletes, in
order. -/
def LoadedProgram.slotHistory (program : LoadedProgram) (numbered : Int → SocketHandle)
    (calls : List SlotCall) : List Operation :=
  (transcript answerSlot program calls).filterMap (SlotCall.onTable? numbered)

def BoundBy (history : List Operation) (queue : QueueId) : Prop :=
  ∃ earlier handle later, history = earlier ++ .update queue handle :: later ∧
    .delete queue ∉ later

theorem not_boundBy_nil (queue : QueueId) : ¬ BoundBy [] queue := by
  rintro ⟨earlier, handle, later, empty, -⟩
  simp at empty

theorem boundBy_append (history : List Operation) (operation : Operation) (queue : QueueId) :
    BoundBy (history ++ [operation]) queue ↔
      (∃ handle, operation = .update queue handle) ∨
        (BoundBy history queue ∧ operation ≠ .delete queue) := by
  constructor
  · rintro ⟨earlier, handle, later, split, kept⟩
    rcases List.eq_nil_or_concat later with rfl | ⟨between, last, rfl⟩
    · obtain ⟨-, same⟩ := List.append_inj' split rfl
      cases same
      exact .inl ⟨handle, rfl⟩
    · have split : history ++ [operation] =
          (earlier ++ .update queue handle :: between) ++ [last] := by
        rw [split, List.concat_eq_append, List.append_assoc, List.cons_append]
      obtain ⟨rfl, same⟩ := List.append_inj' split rfl
      cases same
      rw [List.concat_eq_append, List.mem_append, not_or] at kept
      refine .inr ⟨⟨earlier, handle, between, rfl, kept.1⟩, ?_⟩
      rintro rfl
      exact kept.2 (List.mem_singleton_self _)
  · rintro (⟨handle, rfl⟩ | ⟨⟨earlier, handle, later, rfl, kept⟩, apart⟩)
    · exact ⟨history, handle, [], rfl, List.not_mem_nil⟩
    · refine ⟨earlier, handle, later ++ [operation], by simp, ?_⟩
      rw [List.mem_append, not_or]
      exact ⟨kept, fun last => apart (List.mem_singleton.mp last).symm⟩

theorem boundBy_update (history : List Operation) (queue other : QueueId) (handle : SocketHandle) :
    BoundBy (history ++ [.update queue handle]) other ↔ queue = other ∨ BoundBy history other := by
  rw [boundBy_append]
  constructor
  · rintro (⟨_, same⟩ | ⟨before, -⟩)
    · cases same
      exact .inl rfl
    · exact .inr before
  · rintro (rfl | before)
    · exact .inl ⟨handle, rfl⟩
    · exact .inr ⟨before, nofun⟩

theorem boundBy_delete (history : List Operation) (queue other : QueueId) :
    BoundBy (history ++ [.delete queue]) other ↔ queue ≠ other ∧ BoundBy history other := by
  rw [boundBy_append]
  constructor
  · rintro (⟨_, same⟩ | ⟨before, apart⟩)
    · cases same
    · exact ⟨fun same => apart (congrArg Operation.delete same), before⟩
  · rintro ⟨apart, before⟩
    refine .inr ⟨before, fun same => apart ?_⟩
    cases same
    rfl

namespace LoadedProgram

variable {program : LoadedProgram} {queue : QueueId}

theorem update_noSocket (inside : ¬ queue.index ≥ program.capacity)
    (holds : program.map.holdsSockets = true) (fits : queue.index.toNat < program.map.entries)
    (descriptor : Int) :
    program.update queue descriptor false = .error (.map .updateRefused) := by
  rw [update, checkQueue, if_neg inside, holds, if_neg (Nat.not_le.mpr fits)]
  rfl

theorem answerSlot_update_refused {descriptor : Int} {isSocket : Bool} {error : Error}
    (refused : program.update queue descriptor isSocket = .error error) :
    program.answerSlot (.update queue descriptor isSocket) = (.refused error, program) := by
  rw [answerSlot, refused]

end LoadedProgram

structure Tracks (history : List Operation) (program : LoadedProgram) (table : Table) : Prop where
  mapType : program.map.mapType = socketMapType
  entries : program.map.entries = maxCapacity.toNat
  length : table.slots.length = maxCapacity.toNat
  inMap : ∀ queue, (program.map.descriptor? queue).isSome = true ↔ BoundBy history queue
  inTable : ∀ queue, (table.lookup queue).isSome = true ↔ BoundBy history queue

namespace Tracks

variable {history : List Operation} {program : LoadedProgram} {table : Table} {queue : QueueId}

theorem holds (tracks : Tracks history program table) : program.map.holdsSockets = true := by
  simp [SocketMap.holdsSockets, tracks.mapType]

theorem fits (tracks : Tracks history program table) (inside : queue.index < maxCapacity) :
    queue.index.toNat < program.map.entries := by
  rw [tracks.entries]
  exact UInt32.lt_iff_toNat_lt.mp inside

theorem within (tracks : Tracks history program table) (inside : queue.index < maxCapacity) :
    queue.index.toNat < table.slots.length := by
  rw [tracks.length]
  exact UInt32.lt_iff_toNat_lt.mp inside

theorem not_boundBy_outside (tracks : Tracks history program table)
    (outside : maxCapacity ≤ queue.index) : ¬ BoundBy history queue := by
  have past : table.slots.length ≤ queue.index.toNat := by
    rw [tracks.length]
    exact UInt32.le_iff_toNat_le.mp outside
  rw [← tracks.inTable, lookup_outside past]
  exact Bool.false_ne_true

theorem delete_eq (tracks : Tracks history program table) (inside : queue.index < maxCapacity) :
    program.delete queue =
      .ok (true, [.unbound queue], { program with map := program.map.remove queue }) :=
  LoadedProgram.delete_inside (UInt32.not_le.mpr inside) tracks.holds (tracks.fits inside)

theorem bind (tracks : Tracks history program table) (inside : queue.index < maxCapacity)
    (descriptor : Int) (handle : SocketHandle) :
    Tracks (history ++ [.update queue handle])
      { program with map := program.map.set queue descriptor }
      (table.put queue (.bound handle)) where
  mapType := tracks.mapType
  entries := tracks.entries
  length := (List.length_set ..).trans tracks.length
  inMap other := by
    change ((program.map.set queue descriptor).descriptor? other).isSome = true ↔ _
    rw [boundBy_update, SocketMap.descriptor?_set, ← tracks.inMap]
    by_cases same : queue = other
    · simp [same]
    · simp [same]
  inTable other := by
    rw [boundBy_update, lookup_put_inside (tracks.within inside), Slot.binding?_bound,
      ← tracks.inTable]
    by_cases same : queue = other
    · simp [same]
    · simp [same]

theorem unbind (tracks : Tracks history program table) (inside : queue.index < maxCapacity) :
    Tracks (history ++ [.delete queue]) { program with map := program.map.remove queue }
      (table.put queue .empty) where
  mapType := tracks.mapType
  entries := tracks.entries
  length := (List.length_set ..).trans tracks.length
  inMap other := by
    change ((program.map.remove queue).descriptor? other).isSome = true ↔ _
    rw [boundBy_delete, SocketMap.descriptor?_remove, ← tracks.inMap]
    by_cases same : queue = other
    · simp [same]
    · simp [same]
  inTable other := by
    rw [boundBy_delete, lookup_put_inside (tracks.within inside), Slot.binding?_empty,
      ← tracks.inTable]
    by_cases same : queue = other
    · simp [same]
    · simp [same]

theorem boundBy_miss (tracks : Tracks history program table) (outside : maxCapacity ≤ queue.index)
    (other : QueueId) : BoundBy (history ++ [.delete queue]) other ↔ BoundBy history other := by
  rw [boundBy_delete]
  refine ⟨And.right, fun bound => ⟨?_, bound⟩⟩
  rintro rfl
  exact tracks.not_boundBy_outside outside bound

theorem miss (tracks : Tracks history program table) (outside : maxCapacity ≤ queue.index) :
    Tracks (history ++ [.delete queue]) program table where
  mapType := tracks.mapType
  entries := tracks.entries
  length := tracks.length
  inMap other := by
    rw [tracks.boundBy_miss outside]
    exact tracks.inMap other
  inTable other := by
    rw [tracks.boundBy_miss outside]
    exact tracks.inTable other

theorem step (tracks : Tracks history program table) (numbered : Int → SocketHandle)
    (call : SlotCall) :
    let done := (SlotCall.onTable? numbered (call, (program.answerSlot call).1)).toList
    Tracks (history ++ done) (program.answerSlot call).2 (answersTo perform table done).2 := by
  cases call with
  | update queue descriptor isSocket =>
    rcases UInt32.lt_or_le queue.index maxCapacity with inside | outside
    · have under : ¬ queue.index ≥ program.capacity := UInt32.not_le.mpr inside
      cases isSocket with
      | true =>
        have accepted := LoadedProgram.update_inside under tracks.holds (tracks.fits inside)
          descriptor
        have swapped := swap_inside (tracks.within inside) (.bound (numbered descriptor))
        have written := tracks.bind inside descriptor (numbered descriptor)
        simp only [LoadedProgram.answerSlot, accepted, SlotCall.onTable?, Option.toList_some,
          answersTo, perform, Table.update, swapped, settle]
        exact written
      | false =>
        rw [LoadedProgram.answerSlot_update_refused
          (LoadedProgram.update_noSocket under tracks.holds (tracks.fits inside) descriptor)]
        rwa [← List.append_nil history] at tracks
    · rw [LoadedProgram.answerSlot_update_refused
        (LoadedProgram.update_outside outside descriptor isSocket)]
      rwa [← List.append_nil history] at tracks
  | delete queue =>
    rcases UInt32.lt_or_le queue.index maxCapacity with inside | outside
    · have swapped := swap_inside (tracks.within inside) .empty
      have written := tracks.unbind inside
      simp only [LoadedProgram.answerSlot, tracks.delete_eq inside, SlotCall.onTable?,
        Option.toList_some, answersTo, perform, Table.delete, swapped, settle]
      exact written
    · have past : table.slots.length ≤ queue.index.toNat := by
        rw [tracks.length]
        exact UInt32.le_iff_toNat_le.mp outside
      have refused : program.delete queue = .error (.queueOutOfRange queue program.capacity) :=
        LoadedProgram.delete_outside outside
      have missed := tracks.miss outside
      simp only [LoadedProgram.answerSlot, refused, SlotCall.onTable?,
        Option.toList_some, answersTo, perform, Table.delete, swap_outside past, settle]
      exact missed

theorem run (tracks : Tracks history program table) (numbered : Int → SocketHandle)
    (calls : List SlotCall) :
    Tracks (history ++ program.slotHistory numbered calls)
      (answersTo LoadedProgram.answerSlot program calls).2
      (answersTo perform table (program.slotHistory numbered calls)).2 := by
  induction calls generalizing history program table with
  | nil => rwa [← List.append_nil history] at tracks
  | cons call rest ih =>
    have split : program.slotHistory numbered (call :: rest) =
        (SlotCall.onTable? numbered (call, (program.answerSlot call).1)).toList ++
          (program.answerSlot call).2.slotHistory numbered rest := by
      rw [LoadedProgram.slotHistory, transcript_cons, List.filterMap_cons]
      cases SlotCall.onTable? numbered (call, (program.answerSlot call).1) with
      | none => rfl
      | some operation => rfl
    have later := ih (tracks.step numbered call)
    rw [split, answersTo_append, ← List.append_assoc]
    exact later

end Tracks

theorem tracks_of_load {content : Except Object.Fault Object.File} {options : ProgramOptions}
    {verifies : Object.Routine → Bool} {record : LoaderRecord} {program : LoadedProgram}
    (loaded : LoadedProgram.load content options verifies = .ok (record, program))
    (mapType : program.map.mapType = socketMapType)
    (entries : program.map.entries = maxCapacity.toNat) : Tracks [] program .unbound := by
  have inStep := inStep_of_load loaded mapType entries
  have made : ofCapacity maxCapacity = .ok .unbound := rfl
  have unbound (queue : QueueId) : Table.unbound.lookup queue = none :=
    lookup_ofCapacity made queue
  refine ⟨mapType, entries, inStep.length, ?_, ?_⟩
  · intro queue
    rw [inStep.bindings, unbound]
    exact iff_of_false Bool.false_ne_true (not_boundBy_nil queue)
  · intro queue
    rw [unbound]
    exact iff_of_false Bool.false_ne_true (not_boundBy_nil queue)

namespace LoadedProgram

/-- A delete on a loaded program empties the slot and answers that something was removed, whatever
the calls before it. A table with the same history removes something, and the slot in the kernel was
bound, just when an accepted update has bound the queue and no delete has followed it; so the answer
agrees with that of the table just then. -/
theorem delete_tells_of_bound_queues {content : Except Object.Fault Object.File}
    {options : ProgramOptions} {verifies : Object.Routine → Bool} {record : LoaderRecord}
    {program : LoadedProgram} (loaded : load content options verifies = .ok (record, program))
    (mapType : program.map.mapType = socketMapType)
    (entries : program.map.entries = maxCapacity.toNat)
    (numbered : Int → SocketHandle) (calls : List SlotCall)
    {queue : QueueId} (inside : queue.index < maxCapacity) :
    let kernel := (answersTo answerSlot program calls).2
    let history := program.slotHistory numbered calls
    let table := (answersTo perform Table.unbound history).2
    ∃ removed previous emptied after,
      kernel.delete queue = .ok (removed, [.unbound queue], emptied) ∧
      table.delete queue = .ok (previous, after) ∧
      removed = true ∧
      (removed = previous.isSome ↔ BoundBy history queue) ∧
      (kernel.map.isBound queue.index = true ↔ BoundBy history queue) ∧
      ∀ other, emptied.map.isBound other.index = (after.lookup other).isSome ∧
        (emptied.map.isBound other.index = true ↔ queue ≠ other ∧ BoundBy history other) := by
  intro kernel history table
  have tracks : Tracks history kernel table :=
    (tracks_of_load loaded mapType entries).run numbered calls
  have emptied := tracks.unbind inside
  refine ⟨true, table.lookup queue, _, _, tracks.delete_eq inside,
    swap_inside (tracks.within inside) .empty, rfl, ?_, tracks.inMap queue, ?_⟩
  · rw [← tracks.inTable]
    exact eq_comm
  · intro other
    constructor
    · rw [Bool.eq_iff_iff]
      exact (emptied.inMap other).trans (emptied.inTable other).symm
    · exact (emptied.inMap other).trans (boundBy_delete history queue other)

def slotCalls : List SlotCall :=
  [.update ⟨3⟩ 200 true, .update ⟨5⟩ 201 false, .delete ⟨3⟩, .update ⟨7⟩ 200 true]

def numberedAs (descriptor : Int) : SocketHandle := ⟨UInt32.ofNat descriptor.toNat⟩

theorem delete_tells_of_bound_queues_plainProgram :
    let kernel := (answersTo answerSlot plainProgram slotCalls).2
    let history := plainProgram.slotHistory numberedAs slotCalls
    load (.ok plainObject) { miss := .pass } = .ok (.loaded .pass, plainProgram) ∧
      BoundBy history ⟨7⟩ ∧
      ∃ emptied, kernel.delete ⟨7⟩ = .ok (true, [.unbound ⟨7⟩], emptied) := by
  intro kernel history
  have seventhInside : (⟨7⟩ : QueueId).index < maxCapacity := by decide
  obtain ⟨removed, _, emptied, _, deleted, -, rfl, -, bound, -⟩ :=
    delete_tells_of_bound_queues load_plainObject rfl rfl numberedAs slotCalls seventhInside
  exact ⟨load_plainObject, bound.mp (by decide), emptied, deleted⟩

/-- The queue was unbound again, and a table has nothing more to remove there; yet the answer is that
something was removed. -/
theorem delete_of_unbound_queue_answers_removed :
    let calls := [SlotCall.update ⟨3⟩ 200 true, .delete ⟨3⟩]
    let kernel := (answersTo answerSlot plainProgram calls).2
    let history := plainProgram.slotHistory numberedAs calls
    let table := (answersTo perform Table.unbound history).2
    load (.ok plainObject) { miss := .pass } = .ok (.loaded .pass, plainProgram) ∧
      history = [.update ⟨3⟩ ⟨200⟩, .delete ⟨3⟩] ∧ ¬ BoundBy history ⟨3⟩ ∧
      (table.delete ⟨3⟩).toOption.map Prod.fst = some none ∧
      (kernel.delete ⟨3⟩).toOption.map Prod.fst = some true := by
  intro calls kernel history table
  have split : history = [.update ⟨3⟩ ⟨200⟩] ++ [.delete ⟨3⟩] := by decide
  refine ⟨load_plainObject, split, ?_, by decide, by decide⟩
  rw [split, boundBy_delete]
  exact fun bound => bound.1 rfl

end LoadedProgram
end RxSteering
