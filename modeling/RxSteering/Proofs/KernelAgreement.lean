import RxSteering.KernelClassifier
import RxSteering.Object.Outline
import RxSteering.Proofs.Loading
import RxSteering.Proofs.TableLookup
import RxSteering.Registry

/-!
The classifier in the kernel and the one in the process, after the same changes of their slots. Each
change is refused by both or by neither; a queue is bound in the socket map just when it is bound
in the table; and so both give every queue the same verdict.
-/
namespace RxSteering

/-- A change of one slot. The number of a socket is its descriptor in the kernel and its handle in
the process. -/
inductive SlotChange where
  | update (queue : QueueId) (socket : SocketHandle)
  | delete (queue : QueueId)
  deriving DecidableEq, Repr

def SocketHandle.descriptor (handle : SocketHandle) : Int := handle.id.toNat

namespace SlotChange

def queue : SlotChange → QueueId
  | update queue _ => queue
  | delete queue => queue

def onProgram (program : LoadedProgram) : SlotChange → Except Error LoadedProgram
  | update queue socket => (program.update queue socket.descriptor true).map Prod.snd
  | delete queue => (program.delete queue).map fun (_, _, after) => after

def onTable (table : Table) : SlotChange → Except Error Table
  | update queue socket => (table.update queue socket).map Prod.snd
  | delete queue => (table.delete queue).map Prod.snd

end SlotChange

/-- A change that is refused leaves everything as it was. -/
def LoadedProgram.changeAll (program : LoadedProgram) (changes : List SlotChange) : LoadedProgram :=
  changes.foldl (fun program change => (change.onProgram program).toOption.getD program) program

def Table.changeAll (table : Table) (changes : List SlotChange) : Table :=
  changes.foldl (fun table change => (change.onTable table).toOption.getD table) table

namespace SocketMap

theorem descriptor?_remove (map : SocketMap) (queue other : QueueId) :
    (map.remove queue).descriptor? other =
      if queue = other then none else map.descriptor? other := by
  rw [descriptor?, remove, find?_without]
  split
  · rfl
  · rfl

theorem descriptor?_set (map : SocketMap) (queue other : QueueId) (descriptor : Int) :
    (map.set queue descriptor).descriptor? other =
      if queue = other then some descriptor else map.descriptor? other := by
  by_cases same : queue = other
  · simp [descriptor?, set, same]
  · have removed := map.descriptor?_remove queue other
    rw [if_neg same] at removed
    rw [if_neg same, ← removed]
    simp [descriptor?, set, same]

end SocketMap

namespace LoadedProgram

variable {program : LoadedProgram} {queue : QueueId}

theorem update_outside (outside : queue.index ≥ program.capacity) (descriptor : Int)
    (isSocket : Bool) :
    program.update queue descriptor isSocket =
      .error (.queueOutOfRange queue program.capacity) := by
  rw [update, checkQueue, if_pos outside]
  rfl

theorem delete_outside (outside : queue.index ≥ program.capacity) :
    program.delete queue = .error (.queueOutOfRange queue program.capacity) := by
  rw [delete, checkQueue, if_pos outside]
  rfl

theorem update_inside (inside : ¬ queue.index ≥ program.capacity)
    (holds : program.map.holdsSockets = true) (fits : queue.index.toNat < program.map.entries)
    (descriptor : Int) :
    program.update queue descriptor true =
      .ok (.bound queue descriptor,
        { program with map := program.map.set queue descriptor }) := by
  rw [update, checkQueue, if_neg inside, holds, if_neg (Nat.not_le.mpr fits)]
  rfl

theorem delete_inside (inside : ¬ queue.index ≥ program.capacity)
    (holds : program.map.holdsSockets = true) (fits : queue.index.toNat < program.map.entries) :
    program.delete queue =
      .ok (true, [.unbound queue], { program with map := program.map.remove queue }) := by
  rw [delete, checkQueue, if_neg inside, holds, SocketMap.delete, if_pos fits]
  rfl

end LoadedProgram

structure InStep (origin program : LoadedProgram) (table : Table) : Prop where
  options : program.options = origin.options
  maps : program.maps = origin.maps
  mapType : program.map.mapType = socketMapType
  entries : program.map.entries = maxCapacity.toNat
  length : table.slots.length = maxCapacity.toNat
  bindings : ∀ queue,
    program.map.descriptor? queue = (table.lookup queue).map SocketHandle.descriptor

namespace InStep

variable {origin program : LoadedProgram} {table : Table}

theorem capacity (inStep : InStep origin program table) : table.capacity = maxCapacity := by
  rw [Table.capacity, inStep.length]
  rfl

theorem outside_iff (inStep : InStep origin program table) (queue : QueueId) :
    queue.index ≥ program.capacity ↔ table.slots.length ≤ queue.index.toNat := by
  rw [inStep.length]
  exact UInt32.le_iff_toNat_le

theorem refused (inStep : InStep origin program table) {change : SlotChange}
    (outside : table.slots.length ≤ change.queue.index.toNat) :
    change.onProgram program = .error (.queueOutOfRange change.queue maxCapacity) ∧
      change.onTable table = .error (.queueOutOfRange change.queue maxCapacity) := by
  have beyond := (inStep.outside_iff change.queue).mpr outside
  cases change with
  | update queue socket =>
    dsimp only [SlotChange.queue] at beyond outside ⊢
    constructor
    · rw [SlotChange.onProgram, LoadedProgram.update_outside beyond]
      rfl
    · rw [SlotChange.onTable, Table.update, Table.swap_outside outside, inStep.capacity]
      rfl
  | delete queue =>
    dsimp only [SlotChange.queue] at beyond outside ⊢
    constructor
    · rw [SlotChange.onProgram, LoadedProgram.delete_outside beyond]
      rfl
    · rw [SlotChange.onTable, Table.delete, Table.swap_outside outside, inStep.capacity]
      rfl

theorem put (inStep : InStep origin program table) {queue : QueueId} {map : SocketMap} {slot : Slot}
    (shape : map.mapType = program.map.mapType ∧ map.entries = program.map.entries)
    (inside : queue.index.toNat < table.slots.length)
    (written : ∀ other, map.descriptor? other =
      if queue = other then slot.binding?.map SocketHandle.descriptor
      else program.map.descriptor? other) :
    InStep origin { program with map := map } (table.put queue slot) where
  options := inStep.options
  maps := inStep.maps
  mapType := shape.1.trans inStep.mapType
  entries := shape.2.trans inStep.entries
  length := (List.length_set ..).trans inStep.length
  bindings other := by
    change map.descriptor? other = _
    rw [written, Table.lookup_put_inside inside, inStep.bindings]
    split
    · rfl
    · rfl

theorem changed (inStep : InStep origin program table) {change : SlotChange}
    (inside : change.queue.index.toNat < table.slots.length) :
    ∃ program' table', change.onProgram program = .ok program' ∧
      change.onTable table = .ok table' ∧ InStep origin program' table' := by
  have within := mt (inStep.outside_iff change.queue).mp (Nat.not_le.mpr inside)
  have holds : program.map.holdsSockets = true := by simp [SocketMap.holdsSockets, inStep.mapType]
  have fits : change.queue.index.toNat < program.map.entries := by
    rw [inStep.entries, ← inStep.length]
    exact inside
  cases change with
  | update queue socket =>
    dsimp only [SlotChange.queue] at within fits inside
    refine ⟨{ program with map := program.map.set queue socket.descriptor },
      table.put queue (.bound socket), ?_, ?_, inStep.put ⟨rfl, rfl⟩ inside ?_⟩
    · rw [SlotChange.onProgram, LoadedProgram.update_inside within holds fits]
      rfl
    · rw [SlotChange.onTable, Table.update, Table.swap_inside inside]
      rfl
    · intro other
      rw [SocketMap.descriptor?_set, Slot.binding?_bound]
      rfl
  | delete queue =>
    dsimp only [SlotChange.queue] at within fits inside
    refine ⟨{ program with map := program.map.remove queue }, table.put queue .empty, ?_, ?_,
      inStep.put ⟨rfl, rfl⟩ inside ?_⟩
    · rw [SlotChange.onProgram, LoadedProgram.delete_inside within holds fits]
      rfl
    · rw [SlotChange.onTable, Table.delete, Table.swap_inside inside]
      rfl
    · intro other
      rw [SocketMap.descriptor?_remove, Slot.binding?_empty]
      rfl

theorem step (inStep : InStep origin program table) (change : SlotChange) :
    InStep origin ((change.onProgram program).toOption.getD program)
      ((change.onTable table).toOption.getD table) := by
  rcases Nat.lt_or_ge change.queue.index.toNat table.slots.length with inside | outside
  · obtain ⟨program', table', here, there, after⟩ := inStep.changed inside
    rw [here, there]
    exact after
  · obtain ⟨here, there⟩ := inStep.refused outside
    rw [here, there]
    exact inStep

theorem run (inStep : InStep origin program table) (changes : List SlotChange) :
    InStep origin (program.changeAll changes) (table.changeAll changes) := by
  induction changes generalizing program table with
  | nil => exact inStep
  | cons change rest ih => exact ih (inStep.step change)

theorem refuses_iff (inStep : InStep origin program table) (change : SlotChange) (error : Error) :
    (change.onProgram program = .error error ↔ change.onTable table = .error error) ∧
      (change.onTable table = .error error ↔
        error = .queueOutOfRange change.queue maxCapacity ∧ maxCapacity ≤ change.queue.index) := by
  have outside_iff : maxCapacity ≤ change.queue.index ↔
      table.slots.length ≤ change.queue.index.toNat := inStep.outside_iff change.queue
  rcases Nat.lt_or_ge change.queue.index.toNat table.slots.length with inside | outside
  · obtain ⟨program', table', here, there, -⟩ := inStep.changed inside
    rw [here, there, outside_iff]
    simp [Nat.not_le.mpr inside]
  · obtain ⟨here, there⟩ := inStep.refused outside
    rw [here, there, outside_iff]
    simp [outside, eq_comm]

end InStep

theorem MissPolicy.action_decision (miss : MissPolicy) : miss.decision.action = miss.action := by
  cases miss with
  | drop => rfl
  | pass => rfl

theorem MissPolicy.low_bits (miss : MissPolicy) :
    miss.action.code.toUInt64 ≤ 3 ∧
      (miss.action.code.toUInt64 &&& 3).toUInt32 = miss.action.code := by
  cases miss with
  | drop => decide
  | pass => decide

/-- What the kernel says of its redirect helper: it redirects to a bound slot, and answers the low
two bits of the flags for an empty one. The first argument says which slots are bound. -/
structure IsRedirectHelper (helper : (UInt32 → Bool) → HelperCall → UInt32) : Prop where
  bound : ∀ isBound call, call.flags ≤ 3 → isBound call.key = true →
    helper isBound call = Action.redirect.code
  empty : ∀ isBound call, call.flags ≤ 3 → isBound call.key = false →
    helper isBound call = (call.flags &&& 3).toUInt32

theorem isRedirectHelper_verdict : IsRedirectHelper fun isBound call => call.verdict isBound where
  bound isBound call small bound := by
    rw [HelperCall.verdict, if_neg (UInt64.not_lt.mpr small), if_pos bound]
  empty isBound call small empty := by
    have low : call.flags &&& 3 = call.flags := by
      apply UInt64.toNat.inj
      have bound : call.flags.toNat < 2 ^ 2 := Nat.lt_succ_of_le (UInt64.le_iff_toNat_le.mp small)
      rw [UInt64.toNat_and]
      exact Nat.and_two_pow_sub_one_of_lt_two_pow bound
    rw [HelperCall.verdict, if_neg (UInt64.not_lt.mpr small), empty, low]
    rfl

namespace InStep

variable {origin program : LoadedProgram} {table : Table}

theorem isBound_eq (inStep : InStep origin program table) (queue : UInt32) :
    program.map.isBound queue = (table.lookup ⟨queue⟩).isSome := by
  rw [SocketMap.isBound, inStep.bindings, Option.isSome_map]

theorem verdict_eq (inStep : InStep origin program table)
    {helper : (UInt32 → Bool) → HelperCall → UInt32} (redirects : IsRedirectHelper helper)
    (miss : MissPolicy) (queue : UInt32) :
    KernelClassifier.verdict miss.action.code (helper program.map.isBound) queue =
      (Classifier.classifyQueue ⟨table, miss⟩ ⟨queue⟩).action.code := by
  obtain ⟨small, low⟩ := miss.low_bits
  have decided : miss.action.code = miss.decision.action.code :=
    congrArg Action.code miss.action_decision.symm
  unfold KernelClassifier.verdict KernelClassifier.helperCall? Classifier.classifyQueue
  by_cases beyond : queue ≥ KernelClassifier.queueSlots
  · have outside : table.slots.length ≤ queue.toNat := by
      rw [inStep.length]
      exact UInt32.le_iff_toNat_le.mp beyond
    rw [if_pos beyond, Table.lookup_outside outside]
    exact decided
  · rw [if_neg beyond]
    cases seen : table.lookup ⟨queue⟩ with
    | some socket =>
      have bound : program.map.isBound queue = true := by
        rw [inStep.isBound_eq, seen]
        rfl
      exact redirects.bound _ _ small bound
    | none =>
      have empty : program.map.isBound queue = false := by
        rw [inStep.isBound_eq, seen]
        rfl
      exact (redirects.empty _ _ small empty).trans (low.trans decided)

end InStep

theorem inStep_of_load {content : Except Object.Fault Object.File} {options : ProgramOptions}
    {verifies : Object.Routine → Bool} {record : LoaderRecord} {program : LoadedProgram}
    (loaded : LoadedProgram.load content options verifies = .ok (record, program))
    (mapType : program.map.mapType = socketMapType)
    (entries : program.map.entries = maxCapacity.toNat) :
    InStep program program .unbound where
  options := rfl
  maps := rfl
  mapType := mapType
  entries := entries
  length := List.length_replicate
  bindings queue := by
    have empty := (LoadedProgram.keeps_of_load loaded).2.1
    have made : Table.ofCapacity maxCapacity = .ok .unbound := rfl
    rw [Table.lookup_ofCapacity made, SocketMap.descriptor?, empty]
    rfl

/-- After the same changes the classifier in the kernel, with the miss action that it finds in its
memory, gives every queue the verdict of the classifier in the process; and every change is
refused by both, for a queue outside and nothing else, or by neither. -/
theorem kernel_classifier_agrees {file : Object.File} {options : ProgramOptions}
    {verifies : Object.Routine → Bool} {record : LoaderRecord} {program : LoadedProgram}
    (loaded : LoadedProgram.load (.ok file) options verifies = .ok (record, program))
    (mapType : program.map.mapType = socketMapType)
    (entries : program.map.entries = maxCapacity.toNat)
    {contents : Object.Contents} (read : file.contents = .ok contents) {map : Object.Map}
    {address : Nat} (place : contents.placeOf? missActionName = some (map, address))
    {content : List UInt8} (stored : map.content = .bytes content)
    {helper : (UInt32 → Bool) → HelperCall → UInt32} (redirects : IsRedirectHelper helper)
    (changes : List SlotChange) :
    let kernel := program.changeAll changes
    let table := Table.unbound.changeAll changes
    (∃ miss : UInt32, kernel.word? map.name address = some miss.toNat ∧
      ∀ queue, KernelClassifier.verdict miss (helper kernel.map.isBound) queue =
        (Classifier.classifyQueue ⟨table, options.miss⟩ ⟨queue⟩).action.code) ∧
    ∀ change : SlotChange,
      (∀ error, change.onProgram kernel = .error error ↔ change.onTable table = .error error) ∧
      (∀ error, change.onTable table = .error error ↔
        error = .queueOutOfRange change.queue maxCapacity ∧ maxCapacity ≤ change.queue.index) ∧
      (maxCapacity ≤ change.queue.index →
        kernel.changeAll [change] = kernel ∧ table.changeAll [change] = table) := by
  intro kernel table
  have inStep : InStep program kernel table := (inStep_of_load loaded mapType entries).run changes
  constructor
  · refine ⟨program.missAction, ?_, ?_⟩
    · rw [LoadedProgram.word?_of_maps inStep.maps]
      exact LoadedProgram.word?_missAction loaded read place stored
    · intro queue
      have same : program.missAction = options.miss.action.code := by
        rw [LoadedProgram.missAction, (LoadedProgram.keeps_of_load loaded).1]
      rw [same]
      exact inStep.verdict_eq redirects options.miss queue
  · intro change
    refine ⟨fun error => (inStep.refuses_iff change error).1,
      fun error => (inStep.refuses_iff change error).2, ?_⟩
    intro outside
    obtain ⟨here, there⟩ := inStep.refused ((inStep.outside_iff change.queue).mp outside)
    constructor
    · simp only [LoadedProgram.changeAll, List.foldl_cons, List.foldl_nil, here]
      rfl
    · simp only [Table.changeAll, List.foldl_cons, List.foldl_nil, there]
      rfl

/-- The smallest object that loads: a program that passes every frame, the socket map and the miss
action. -/
def plainObject : Object.File :=
  Object.Outline.toFile {
    program? :=
      some ⟨programName, "xdp", [0xb7, 0, 0, 0, 2, 0, 0, 0, 0x95, 0, 0, 0, 0, 0, 0, 0]⟩
    map? := some ⟨mapName, socketMapType, maxCapacity.toNat⟩
    global? := some ⟨missActionName, missActionSize⟩ }

def plainContents : Object.Contents :=
  plainObject.contents.toOption.getD ⟨[], [], none, [], [], [], []⟩

def plainVariables (content : List UInt8) : Object.Map :=
  ⟨".rodata", 4, none, ⟨2, 4, 4, 1, false⟩, .bytes content⟩

def plainPatched : Object.Contents := plainContents.insertMap (plainVariables [2, 0, 0, 0])

def plainProgram : LoadedProgram where
  options := { miss := .pass }
  maps := [⟨".rodata", 2, 4, 4, 1, some [2, 0, 0, 0]⟩, ⟨mapName, socketMapType, 4, 4, 64, none⟩]
  map := {}

theorem load_plainObject :
    LoadedProgram.load (.ok plainObject) { miss := .pass } = .ok (.loaded .pass, plainProgram) := by
  have read : plainObject.contents.toOption = some plainContents := by decide +kernel
  have written : (plainContents.patch missActionName
      (Bytes.ofNumber missActionSize MissPolicy.pass.action.code.toNat)).toOption =
      some plainPatched := by decide +kernel
  have checked : plainPatched.checkTypes.toOption = some () := by decide +kernel
  have created : (plainPatched.maps.mapM KernelMap.create).toOption =
      some plainProgram.maps.reverse := by decide +kernel
  have linked : plainPatched.linked? = some plainPatched := by decide +kernel
  have supported : plainProgram.maps.reverse.find? (fun map => !map.isSupported) = none := by
    decide +kernel
  have sorted : plainProgram.maps =
      plainProgram.maps.reverse.mergeSort fun a b => a.name ≤ b.name := by
    have after : ¬ mapName ≤ ".rodata" := by decide +kernel
    simp [plainProgram, List.mergeSort, List.MergeSort.Internal.splitInTwo, after]
  have prepared : LoadedProgram.prepare plainObject plainProgram.options.miss =
      .ok (plainPatched, plainProgram.maps) :=
    LoadedProgram.prepare_eq_ok_iff.mpr ⟨plainContents, plainPatched, plainProgram.maps.reverse,
      ok_of_toOption read, ok_of_toOption written, ok_of_toOption checked, ok_of_toOption created,
      linked, supported, sorted⟩
  have done : (LoadedProgram.loadPrepared plainPatched plainProgram.maps
      plainProgram.options LoadedProgram.roughVerdict).toOption =
      some (.loaded .pass, plainProgram) := by decide +kernel
  exact (LoadedProgram.load_of_prepare prepared _).trans (ok_of_toOption done)

theorem plainProgram_agrees :
    let kernel := plainProgram.changeAll [.update ⟨3⟩ ⟨7⟩, .update ⟨64⟩ ⟨7⟩, .update ⟨5⟩ ⟨8⟩,
      .delete ⟨5⟩]
    (∃ miss : UInt32, kernel.word? ".rodata" 0 = some miss.toNat ∧
      KernelClassifier.verdict miss (fun call => call.verdict kernel.map.isBound) 3 =
        Action.redirect.code ∧
      KernelClassifier.verdict miss (fun call => call.verdict kernel.map.isBound) 5 =
        Action.pass.code) ∧
    (SlotChange.delete ⟨64⟩).onProgram kernel = .error (.queueOutOfRange ⟨64⟩ 64) := by
  intro kernel
  have read : plainObject.contents.toOption = some plainContents := by decide +kernel
  have place : plainContents.placeOf? missActionName = some (plainVariables [0, 0, 0, 0], 0) := by
    decide +kernel
  obtain ⟨⟨miss, word, verdicts⟩, refusals⟩ := kernel_classifier_agrees load_plainObject rfl rfl
    (ok_of_toOption read) place rfl isRedirectHelper_verdict
    [.update ⟨3⟩ ⟨7⟩, .update ⟨64⟩ ⟨7⟩, .update ⟨5⟩ ⟨8⟩, .delete ⟨5⟩]
  refine ⟨⟨miss, word, ?_, ?_⟩, ?_⟩
  · rw [verdicts 3]
    decide +kernel
  · rw [verdicts 5]
    decide +kernel
  · obtain ⟨same, refused, -⟩ := refusals (.delete ⟨64⟩)
    rw [same, refused]
    decide

end RxSteering
