import RxSteering.Classifier
import RxSteering.Proofs.TableLookup
import RxSteering.Proofs.Transcript

/-!
Queues are independent. An operation that names a queue reads the slot of that queue and writes no
other, so operations on different queues can change places; and what a run leaves in a slot is
decided by those of its operations that name the queue or clear the table.
-/
namespace RxSteering

namespace Table

variable {queue other : QueueId} {operation : Operation}

def Operation.queue? : Operation → Option QueueId
  | lookup queue => some queue
  | update queue _ => some queue
  | delete queue => some queue
  | deleteIf queue _ => some queue
  | clear | count | isEmpty | capacity | snapshot => none

def Operation.concerns (queue : QueueId) (operation : Operation) : Bool :=
  operation.queue? = some queue ∨ operation = clear

def Operation.rewrite : Operation → Slot → Slot
  | update _ handle, _ => .bound handle
  | deleteIf _ handle, slot => if slot = .bound handle then .empty else slot
  | delete _, _ => .empty
  | clear, _ => .empty
  | _, slot => slot

def alter (table : Table) (queue : QueueId) (change : Slot → Slot) : Table where
  slots := table.slots.modify queue.index.toNat change
  length_pos := by simpa using table.length_pos
  length_le := by simpa using table.length_le

theorem slot?_alter (table : Table) (queue other : QueueId) (change : Slot → Slot) :
    (table.alter queue change).slot? other =
      if queue = other then (table.slot? queue).map change else table.slot? other := by
  by_cases same : queue = other
  · subst same
    simp [slot?, alter]
  · have apart : queue.index.toNat ≠ other.index.toNat := mt QueueId.toNat_inj.mp same
    simp [slot?, alter, apart, same]

theorem capacity_alter (table : Table) (queue : QueueId) (change : Slot → Slot) :
    (table.alter queue change).capacity = table.capacity := by
  simp [capacity, alter]

theorem alter_comm (table : Table) (apart : queue ≠ other) (first second : Slot → Slot) :
    (table.alter queue first).alter other second =
      (table.alter other second).alter queue first := by
  have apart : queue.index.toNat ≠ other.index.toNat := mt QueueId.toNat_inj.mp apart
  apply eq_of_slots
  apply List.ext_getElem?
  intro index
  simp only [alter, List.getElem?_modify]
  by_cases here : queue.index.toNat = index
  · have elsewhere : other.index.toNat ≠ index := fun there => apart (here.trans there.symm)
    simp [here, elsewhere]
  · simp [here]

theorem alter_of_none {table : Table} (outside : table.slot? queue = none)
    (change : Slot → Slot) : table.alter queue change = table := by
  apply eq_of_slots
  exact List.modify_eq_self (slot?_eq_none_iff.mp outside)

theorem put_eq_alter {table : Table} {slot old : Slot} (here : table.slot? queue = some old)
    {change : Slot → Slot} (written : change old = slot) :
    table.put queue slot = table.alter queue change := by
  apply eq_of_slots
  apply List.ext_getElem?
  intro index
  obtain ⟨inside, found⟩ := List.getElem?_eq_some_iff.mp here
  simp only [put, alter, List.getElem?_set, List.getElem?_modify]
  by_cases same : queue.index.toNat = index
  · subst same
    simp [inside, found, written]
  · simp [same]

theorem alter_of_same {table : Table} {old : Slot} (here : table.slot? queue = some old)
    {change : Slot → Slot} (kept : change old = old) : table.alter queue change = table := by
  rw [← put_eq_alter here kept]
  apply eq_of_slots
  obtain ⟨inside, found⟩ := List.getElem?_eq_some_iff.mp here
  change table.slots.set queue.index.toNat old = table.slots
  rw [← found, List.set_getElem_self]

theorem settle_swap (table : Table) (queue : QueueId) {slot : Slot} {change : Slot → Slot}
    (written : ∀ old, change old = slot) :
    (table.settle .binding (table.swap queue slot)).2 = table.alter queue change := by
  cases here : table.slot? queue with
  | none =>
    rw [alter_of_none here, swap, here]
    rfl
  | some old =>
    rw [swap, here]
    exact put_eq_alter here (written old)

theorem perform_of_queue? (table : Table) (names : operation.queue? = some queue) :
    (table.perform operation).2 = table.alter queue operation.rewrite := by
  cases operation with
  | lookup named =>
    obtain rfl : named = queue := Option.some.inj names
    cases here : table.slot? named with
    | none => rw [alter_of_none here]; rfl
    | some old => rw [alter_of_same here rfl]; rfl
  | update named handle =>
    obtain rfl : named = queue := Option.some.inj names
    exact table.settle_swap named fun _ => rfl
  | delete named =>
    obtain rfl : named = queue := Option.some.inj names
    exact table.settle_swap named fun _ => rfl
  | deleteIf named handle =>
    obtain rfl : named = queue := Option.some.inj names
    simp only [perform, deleteIf]
    cases here : table.slot? named with
    | none => rw [alter_of_none here]; rfl
    | some old =>
      by_cases bound : old = .bound handle
      · simp only [if_pos bound, settle]
        exact put_eq_alter here (if_pos bound)
      · have kept : (Operation.deleteIf named handle).rewrite old = old := if_neg bound
        simp only [if_neg bound, settle]
        exact (alter_of_same here kept).symm
  | clear => cases names
  | count => cases names
  | isEmpty => cases names
  | capacity => cases names
  | snapshot => cases names

/-- The answer to an operation that names a queue depends on the slot of that queue alone, and on
the capacity, which a refusal tells. -/
theorem answer_of_slot? {one another : Table} (names : operation.queue? = some queue)
    (capacity : one.capacity = another.capacity)
    (slot : one.slot? queue = another.slot? queue) :
    (one.perform operation).1 = (another.perform operation).1 := by
  cases operation with
  | lookup named =>
    obtain rfl : named = queue := Option.some.inj names
    simp only [perform, Table.lookup, slot]
  | update named handle =>
    obtain rfl : named = queue := Option.some.inj names
    simp only [perform, update, swap, slot, capacity]
    cases another.slot? named <;> rfl
  | delete named =>
    obtain rfl : named = queue := Option.some.inj names
    simp only [perform, delete, swap, slot, capacity]
    cases another.slot? named <;> rfl
  | deleteIf named handle =>
    obtain rfl : named = queue := Option.some.inj names
    simp only [perform, deleteIf, slot, capacity]
    cases another.slot? named with
    | none => rfl
    | some old => by_cases bound : old = .bound handle <;> simp [bound, settle]
  | clear => cases names
  | count => cases names
  | isEmpty => cases names
  | capacity => cases names
  | snapshot => cases names

theorem answer_after (table : Table) {first second : Operation}
    (firstly : first.queue? = some queue) (secondly : second.queue? = some other)
    (apart : queue ≠ other) :
    ((table.perform first).2.perform second).1 = (table.perform second).1 := by
  apply answer_of_slot? secondly
  · rw [perform_of_queue? table firstly, capacity_alter]
  · rw [perform_of_queue? table firstly, slot?_alter, if_neg apart]

theorem perform_comm (table : Table) {first second : Operation}
    (firstly : first.queue? = some queue) (secondly : second.queue? = some other)
    (apart : queue ≠ other) :
    ((table.perform first).2.perform second).2 = ((table.perform second).2.perform first).2 := by
  rw [perform_of_queue? _ secondly, perform_of_queue? _ firstly, perform_of_queue? _ firstly,
    perform_of_queue? _ secondly, alter_comm table apart]

theorem slot?_perform (table : Table) (operation : Operation) (queue : QueueId) :
    (table.perform operation).2.slot? queue =
      if operation.concerns queue then (table.slot? queue).map operation.rewrite
      else table.slot? queue := by
  cases names : operation.queue? with
  | some named =>
    have notClear : operation ≠ .clear := by
      rintro rfl
      cases names
    rw [perform_of_queue? table names, slot?_alter]
    by_cases same : named = queue
    · simp [Operation.concerns, names, same]
    · simp [Operation.concerns, names, same, notClear]
  | none =>
    cases operation with
    | lookup named => cases names
    | update named handle => cases names
    | delete named => cases names
    | deleteIf named handle => cases names
    | clear => exact List.getElem?_map
    | count => rfl
    | isEmpty => rfl
    | capacity => rfl
    | snapshot => rfl

theorem slot?_answersTo (table : Table) (operations : List Operation) (queue : QueueId) :
    (answersTo perform table operations).2.slot? queue =
      (operations.filter (Operation.concerns queue)).foldl
        (fun slot operation => slot.map operation.rewrite) (table.slot? queue) := by
  induction operations generalizing table with
  | nil => rfl
  | cons operation rest ih =>
    have step := table.slot?_perform operation queue
    change (answersTo perform (table.perform operation).2 rest).2.slot? queue = _
    rw [ih, step]
    by_cases concerned : operation.concerns queue = true
    · rw [if_pos concerned, List.filter_cons_of_pos concerned]
      rfl
    · rw [if_neg concerned, List.filter_cons_of_neg concerned]

theorem slot?_answersTo_of_none {table : Table} (outside : table.slot? queue = none)
    (operations : List Operation) : (answersTo perform table operations).2.slot? queue = none := by
  have step (table : Table) (operation : Operation) (outside : table.slot? queue = none) :
      (table.perform operation).2.slot? queue = none := by
    rw [slot?_perform, outside]
    split
    · rfl
    · rfl
  exact answersTo_keeps step outside operations

end Table

open Table

theorem Classifier.classifyQueue_of_slot? {one another : Table} {queue : QueueId}
    (same : one.slot? queue = another.slot? queue) (miss : MissPolicy) :
    (Classifier.mk one miss).classifyQueue queue =
      (Classifier.mk another miss).classifyQueue queue := by
  simp only [classifyQueue, Table.lookup, same]

/-- Operations on different queues can change places: both are answered as before, refusals
included, and they leave the same table. So what becomes of a queue is decided by the operations of
a run that name it or clear the table, whatever is done to other queues in between; and a queue past
the last slot follows the miss policy after every run. -/
theorem queues_are_independent :
    (∀ (table : Table) (first second : Table.Operation) (queue other : QueueId),
      first.queue? = some queue → second.queue? = some other → queue ≠ other →
      (answersTo perform table [first, second]).1 =
          (answersTo perform table [second, first]).1.reverse ∧
        (answersTo perform table [first, second]).2 =
          (answersTo perform table [second, first]).2) ∧
    (∀ (one another : Table) (queue : QueueId) (operations others : List Table.Operation),
      one.slot? queue = another.slot? queue →
      operations.filter (·.concerns queue) = others.filter (·.concerns queue) → ∀ miss,
      (Classifier.mk (answersTo perform one operations).2 miss).classifyQueue queue =
        (Classifier.mk (answersTo perform another others).2 miss).classifyQueue queue) ∧
    (∀ (capacity : UInt32) (one another : Table) (queue : QueueId)
      (operations others : List Table.Operation),
      ofCapacity capacity = .ok one → ofCapacity capacity = .ok another →
      operations.filter (·.concerns queue) = others.filter (·.concerns queue) → ∀ miss,
      (Classifier.mk (answersTo perform one operations).2 miss).classifyQueue queue =
        (Classifier.mk (answersTo perform another others).2 miss).classifyQueue queue) ∧
    (∀ (table : Table) (queue : QueueId) (operations : List Table.Operation),
      table.capacity ≤ queue.index → ∀ miss,
      (Classifier.mk (answersTo perform table operations).2 miss).classifyQueue queue =
        miss.decision) := by
  have projected (one another : Table) (queue : QueueId) (operations others : List Table.Operation)
      (start : one.slot? queue = another.slot? queue)
      (same : operations.filter (·.concerns queue) = others.filter (·.concerns queue))
      (miss : MissPolicy) :
      (Classifier.mk (answersTo perform one operations).2 miss).classifyQueue queue =
        (Classifier.mk (answersTo perform another others).2 miss).classifyQueue queue := by
    apply Classifier.classifyQueue_of_slot?
    rw [slot?_answersTo, slot?_answersTo, start]
    exact congrArg (List.foldl _ _) same
  refine ⟨?_, projected, ?_, ?_⟩
  · intro table first second queue other firstly secondly apart
    constructor
    · have answers (first second : Table.Operation) :
          (answersTo perform table [first, second]).1 =
            [(table.perform first).1, ((table.perform first).2.perform second).1] := rfl
      rw [answers, answers, answer_after table firstly secondly apart,
        answer_after table secondly firstly (Ne.symm apart)]
      rfl
    · exact perform_comm table firstly secondly apart
  · intro capacity one another queue operations others made again
    obtain rfl : one = another := Except.ok.inj (made.symm.trans again)
    exact projected one one queue operations others rfl
  · intro table queue operations outside miss
    have past : table.slot? queue = none := by
      rw [slot?_eq_none_iff, ← table.toNat_capacity]
      exact UInt32.le_iff_toNat_le.mp outside
    simp only [Classifier.classifyQueue, Table.lookup, slot?_answersTo_of_none past]
    rfl

def alone : List Table.Operation := [.update ⟨1⟩ ⟨7⟩, .clear, .update ⟨1⟩ ⟨9⟩, .deleteIf ⟨1⟩ ⟨7⟩]

def crowded : List Table.Operation :=
  [.update ⟨0⟩ ⟨3⟩, .update ⟨1⟩ ⟨7⟩, .update ⟨2⟩ ⟨5⟩, .clear, .update ⟨1⟩ ⟨9⟩, .delete ⟨0⟩,
    .deleteIf ⟨0⟩ ⟨9⟩, .deleteIf ⟨1⟩ ⟨7⟩, .snapshot]

theorem crowded_queue_decides_as_alone :
    ∃ table, ofCapacity 2 = .ok table ∧
      crowded.filter (·.concerns ⟨1⟩) = alone.filter (·.concerns ⟨1⟩) ∧
      (Classifier.mk (answersTo perform table crowded).2 .pass).classifyQueue ⟨1⟩ =
        .redirect ⟨9⟩ ∧
      (Classifier.mk (answersTo perform table crowded).2 .pass).classifyQueue ⟨2⟩ = .pass ∧
      (answersTo perform table [.update ⟨1⟩ ⟨7⟩, .deleteIf ⟨2⟩ ⟨7⟩]).2 =
        (answersTo perform table [.deleteIf ⟨2⟩ ⟨7⟩, .update ⟨1⟩ ⟨7⟩]).2 := by
  have made : ofCapacity 2 = .ok ⟨[.empty, .empty], by decide, by decide⟩ := rfl
  obtain ⟨exchanged, -, decided, past⟩ := queues_are_independent
  have same : crowded.filter (·.concerns ⟨1⟩) = alone.filter (·.concerns ⟨1⟩) := by decide
  refine ⟨_, made, same, ?_, past _ ⟨2⟩ crowded (by decide) .pass, ?_⟩
  · rw [decided 2 _ _ ⟨1⟩ crowded alone made made same .pass]
    decide
  · exact (exchanged _ _ _ ⟨1⟩ ⟨2⟩ rfl rfl (by decide)).2

end RxSteering
