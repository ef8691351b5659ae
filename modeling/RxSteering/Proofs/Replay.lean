import RxSteering.Proofs.Delivery
import RxSteering.Proofs.JournalLines

/-!
The journal against the host. Whoever keeps only the lines of the journal can say at any time which
sockets are live and which queue is bound to which socket: replayed in order from nothing, they
give what the host holds, and each line is right about what it found. A call that changes nothing
leaves no line.
-/
namespace RxSteering

variable {β : Type}

/-- The live sockets and the bindings, as somebody knows them who has only the journal. -/
@[ext]
structure Image where
  live : SocketHandle → Bool
  binding : QueueId → Option SocketHandle

namespace Image

def empty : Image := ⟨fun _ => false, fun _ => none⟩

def setLive (image : Image) (handle : SocketHandle) (live : Bool) : Image :=
  { image with live := fun other => if handle = other then live else image.live other }

def setBinding (image : Image) (queue : QueueId) (binding : Option SocketHandle) : Image :=
  { image with binding := fun other => if queue = other then binding else image.binding other }

/-- What a record makes of the image, unless the record is wrong about what was there before: a
socket that is registered is new, one that is unregistered was live, and a queue was bound as the
record says. -/
def read? (image : Image) : Record → Option Image
  | .registered handle => if image.live handle then none else some (image.setLive handle true)
  | .unregistered handle => if image.live handle then some (image.setLive handle false) else none
  | .bound queue handle previous =>
    if image.binding queue = previous then some (image.setBinding queue (some handle)) else none
  | .unbound queue handle =>
    if image.binding queue = some handle then some (image.setBinding queue none) else none
  | .abandoned queue handle =>
    if image.binding queue = some handle then some (image.setBinding queue none) else none
  | .started .. => none
  | .notAbandoned .. => none

def replay? (image : Image) (records : List Record) : Option Image :=
  records.foldlM read? image

def replayLines? (image : Image) (lines : List String) : Option Image :=
  lines.foldlM (fun image line => (Record.ofLine? line).bind image.read?) image

theorem replay?_append (image : Image) (first second : List Record) :
    image.replay? (first ++ second) = (image.replay? first).bind (·.replay? second) :=
  List.foldlM_append

theorem isChange_of_read? {image after : Image} {record : Record}
    (reads : image.read? record = some after) : record.isChange = true := by
  cases record with
  | started capacity miss => cases reads
  | notAbandoned queue handle error => cases reads
  | registered handle => rfl
  | unregistered handle => rfl
  | bound queue handle previous => rfl
  | unbound queue handle => rfl
  | abandoned queue handle => rfl

theorem replayLines?_of_replay? {image after : Image} {records : List Record}
    (replays : image.replay? records = some after) :
    image.replayLines? (records.map Record.line) = some after := by
  induction records generalizing image with
  | nil => exact replays
  | cons record rest ih =>
    obtain ⟨next, reads, later⟩ := Option.bind_eq_some_iff.mp replays
    have line : (Record.ofLine? record.line).bind image.read? = some next := by
      rw [Record.ofLine?_line (isChange_of_read? reads), Option.bind_some, reads]
    change ((Record.ofLine? record.line).bind image.read?).bind
      (replayLines? · (rest.map Record.line)) = some after
    rw [line, Option.bind_some]
    exact ih later

theorem replay?_abandoned {image : Image} {handle : SocketHandle} {cleared : List QueueId}
    (distinct : cleared.Nodup) (bound : ∀ queue ∈ cleared, image.binding queue = some handle) :
    image.replay? (cleared.map (.abandoned · handle)) =
      some { image with
        binding := fun queue => if queue ∈ cleared then none else image.binding queue } := by
  induction cleared generalizing image with
  | nil => simp [replay?]
  | cons queue rest ih =>
    obtain ⟨absent, distinctRest⟩ := List.nodup_cons.mp distinct
    have first : image.read? (.abandoned queue handle) = some (image.setBinding queue none) :=
      if_pos (bound queue (List.mem_cons_self ..))
    have later : ∀ other ∈ rest, (image.setBinding queue none).binding other = some handle := by
      intro other member
      have apart : queue ≠ other := fun same => absent (same ▸ member)
      exact (if_neg apart).trans (bound other (List.mem_cons_of_mem queue member))
    change (image.read? (.abandoned queue handle)).bind (·.replay? _) = _
    rw [first, Option.bind_some, ih distinctRest later]
    congr 2
    funext other
    by_cases same : queue = other
    · simp [setBinding, same]
    · simp [setBinding, same, Ne.symm same]

end Image

namespace Host

def image (host : Host β) (d : DispatcherId) : Image := ⟨host.isRegistered d, host.table.lookup⟩

def journal (host : Host β) : List (Operation β) → List Record
  | [] => []
  | operation :: rest =>
    (host.perform operation).records ++ (host.perform operation).host.journal rest

theorem image_of_same {host after : Host β} (table : after.table = host.table)
    (sockets : after.sockets = host.sockets) (d : DispatcherId) : after.image d = host.image d := by
  have live : after.isRegistered d = host.isRegistered d := by
    funext handle
    rw [isRegistered, isRegistered, (registry_of_sockets sockets d).1]
  rw [image, image, live, table]

theorem image_addSocket (host : Host β) {d : DispatcherId} (inside : d < host.dispatchers.length)
    (handle : SocketHandle) (next : UInt32) (ring : RingId) :
    (host.addSocket d handle next ring).image d = (host.image d).setLive handle true := by
  have live : (host.addSocket d handle next ring).isRegistered d =
      ((host.image d).setLive handle true).live := by
    funext other
    change ((host.addSocket d handle next ring).socket? d other).isSome = _
    rw [host.socket?_addSocket handle next ring inside]
    simp only [Image.setLive]
    split
    · rfl
    · rfl
  exact Image.ext live rfl

theorem image_removeSocket (host : Host β) {d : DispatcherId}
    (inside : d < host.dispatchers.length) (handle : SocketHandle) (ring : RingId) :
    ((host.removeSocket d handle ring).withTable (host.table.clearSocket handle)).image d =
      Image.setLive { host.image d with
        binding := fun queue => if queue ∈ host.queuesOf handle then none
          else (host.image d).binding queue } handle false := by
  have live : (host.removeSocket d handle ring).isRegistered d =
      ((host.image d).setLive handle false).live := by
    funext other
    change ((host.removeSocket d handle ring).socket? d other).isSome = _
    rw [host.socket?_removeSocket ring inside]
    simp only [Image.setLive]
    split
    · rfl
    · rfl
  have binding : (host.table.clearSocket handle).lookup = fun queue =>
      if queue ∈ host.queuesOf handle then none else host.table.lookup queue := by
    funext queue
    rw [Table.lookup_clearSocket]
    simp only [mem_queuesOf]
  exact Image.ext live binding

theorem image_put {host : Host β} {queue : QueueId}
    (inside : queue.index.toNat < host.table.slots.length) (slot : Slot) (d : DispatcherId) :
    (host.withTable (host.table.put queue slot)).image d =
      (host.image d).setBinding queue slot.binding? := by
  have binding : (host.table.put queue slot).lookup =
      ((host.image d).setBinding queue slot.binding?).binding := by
    funext other
    exact Table.lookup_put_inside inside other slot
  exact Image.ext rfl binding

inductive Journaled (d : DispatcherId) (image : Image) :
    Operation β → Answer β → List Record → Image → Prop where
  | silent {operation : Operation β} (answer : Answer β)
      (idle : ∀ handle, operation = .request d (.unregister handle) → image.live handle = false) :
      Journaled d image operation answer [] image
  | registered (ring : RingId) {handle : SocketHandle} (new : image.live handle = false) :
      Journaled d image (.request d (.register ring)) (.outcome (.registered handle))
        [.registered handle] (image.setLive handle true)
  | unregistered {handle : SocketHandle} {cleared : List QueueId}
      (live : image.live handle = true)
      (ascending : cleared.Pairwise fun first second => first.index < second.index)
      (exact : ∀ queue, queue ∈ cleared ↔ image.binding queue = some handle) :
      Journaled d image (.request d (.unregister handle)) (.outcome (.unregistered true))
        (cleared.map (.abandoned · handle) ++ [.unregistered handle])
        (Image.setLive { image with
          binding := fun queue => if queue ∈ cleared then none else image.binding queue }
          handle false)
  | bound (queue : QueueId) (handle : SocketHandle) :
      Journaled d image (.request d (.bind queue handle)) (.outcome (.bound (image.binding queue)))
        [.bound queue handle (image.binding queue)] (image.setBinding queue (some handle))
  | unbound {queue : QueueId} {handle : SocketHandle}
      (before : image.binding queue = some handle) :
      Journaled d image (.request d (.unbind queue)) (.outcome (.unbound (some handle)))
        [.unbound queue handle] (image.setBinding queue none)

end Host

variable {d : DispatcherId} {ledger : List Change} {host : Host β}

theorem Accounts.journaled_request (accounts : Accounts d ledger host) (request : Request) :
    Host.Journaled d (host.image d) (.request d request : Host.Operation β)
      (.outcome (host.request d request).1) (host.request d request).2.1
      ((host.request d request).2.2.image d) := by
  have went := Host.requested accounts.canonical d request
  generalize host.request d request = result at went ⊢
  cases went with
  | registered found ring =>
    dsimp only
    rw [host.image_addSocket accounts.inside]
    exact .registered ring (Host.not_isRegistered_iff.mpr (Registry.fresh?_free found))
  | exhausted full ring => exact .silent _ nofun
  | unregistered leads =>
    dsimp only
    rw [host.image_removeSocket accounts.inside]
    exact .unregistered (Host.isRegistered_iff.mpr ⟨_, leads⟩) (host.queuesOf_ascending _)
      fun queue => Host.mem_queuesOf
  | notThere unknown =>
    refine .silent _ fun other same => ?_
    cases same
    exact Host.not_isRegistered_iff.mpr unknown
  | bound leads inside =>
    dsimp only
    rw [Host.image_put inside, Slot.binding?_bound]
    exact .bound _ _
  | unknownSocket unknown queue => exact .silent _ nofun
  | noSlotToBind leads outside => exact .silent _ nofun
  | @unbound queue inside =>
    dsimp only
    rw [Host.image_put inside, Slot.binding?_empty]
    cases before : host.table.lookup queue with
    | none =>
      have same : (host.image d).setBinding queue none = host.image d := by
        refine Image.ext rfl (funext fun other => ?_)
        change (if queue = other then none else host.table.lookup other) = _
        split
        next here => exact here ▸ before.symm
        next => rfl
      rw [same]
      exact .silent _ nofun
    | some handle => exact .unbound before
  | noSlotToUnbind outside => exact .silent _ nofun

theorem Accounts.journaled (accounts : Accounts d ledger host) {operation : Host.Operation β}
    (own : operation.isOwn d = true) :
    Host.Journaled d (host.image d) operation (host.perform operation).answer
      (host.perform operation).records ((host.perform operation).host.image d) := by
  cases operation with
  | request e request =>
    obtain rfl : e = d := by simpa [Host.Operation.isOwn] using own
    exact accounts.journaled_request request
  | dispatch e frame =>
    change Host.Journaled d _ _ _ [] ((host.dispatch e frame).2.image d)
    rw [Host.image_of_same (host.table_dispatch e frame) (host.sockets_dispatch e frame)]
    refine .silent _ fun handle same => ?_
    cases same
  | table operation =>
    change Host.Journaled d _ _ _ [] ((host.withTable (host.table.perform operation).2).image d)
    rw [host.withTable_of_read own]
    refine .silent _ fun handle same => ?_
    cases same
  | openRing depth =>
    refine .silent _ fun handle same => ?_
    cases same
  | ring id operation =>
    refine .silent _ fun handle same => ?_
    cases same

namespace Host.Journaled

variable {image after : Image} {operation : Host.Operation β} {answer : Host.Answer β}
  {records : List Record}

theorem replays (journaled : Journaled d image operation answer records after) :
    image.replay? records = some after := by
  cases journaled with
  | silent answer idle => rfl
  | registered ring new =>
    change ((image.read? _).bind _) = _
    rw [Image.read?, new]
    rfl
  | @unregistered handle cleared live ascending exact =>
    have distinct : cleared.Nodup := by
      refine ascending.imp fun below same => ?_
      subst same
      exact UInt32.lt_irrefl _ below
    have swept := Image.replay?_abandoned distinct fun queue member => (exact queue).mp member
    rw [Image.replay?_append, swept, Option.bind_some]
    change ((Image.read? _ _).bind _) = _
    rw [Image.read?]
    dsimp only
    rw [live]
    rfl
  | bound queue handle =>
    change ((image.read? _).bind _) = _
    rw [Image.read?, if_pos rfl]
    rfl
  | unbound before =>
    change ((image.read? _).bind _) = _
    rw [Image.read?, if_pos before]
    rfl

/-- What changes nothing is silent, but for a bind to the same socket. -/
theorem silent_of_same (journaled : Journaled d image operation answer records after)
    (same : after = image) :
    records = [] ∨ ∃ queue handle, operation = .request d (.bind queue handle) ∧
      image.binding queue = some handle := by
  cases journaled with
  | silent answer idle => exact .inl rfl
  | @registered ring handle new =>
    have live : (image.setLive handle true).live handle = image.live handle := by rw [same]
    rw [new] at live
    simp [Image.setLive] at live
  | @unregistered handle cleared live ascending exact =>
    have gone := congrArg (fun known => Image.live known handle) same
    simp [Image.setLive, live] at gone
  | bound queue handle =>
    have here : (image.setBinding queue (some handle)).binding queue = image.binding queue := by
      rw [same]
    exact .inr ⟨queue, handle, rfl, here.symm.trans (if_pos rfl)⟩
  | @unbound queue handle before =>
    have here : (image.setBinding queue none).binding queue = image.binding queue := by rw [same]
    rw [before] at here
    simp [Image.setBinding] at here

theorem silent_of_refused {error : Error}
    (journaled : Journaled d image operation (.outcome (.refused error)) records after) :
    records = [] := by
  cases journaled with
  | silent answer idle => rfl

theorem teardown {handle : SocketHandle}
    (journaled : Journaled d image (.request d (.unregister handle) : Host.Operation β) answer
      records after) (live : image.live handle = true) :
    answer = .outcome (.unregistered true) ∧ ∃ cleared : List QueueId,
      records = cleared.map (.abandoned · handle) ++ [.unregistered handle] ∧
        (cleared.Pairwise fun first second => first.index < second.index) ∧
        ∀ queue, queue ∈ cleared ↔ image.binding queue = some handle := by
  cases journaled with
  | silent answer idle =>
    rw [idle handle rfl] at live
    cases live
  | @unregistered handle cleared live ascending exact =>
    exact ⟨rfl, cleared, rfl, ascending, exact⟩

end Host.Journaled

theorem Accounts.replay_journal (accounts : Accounts d ledger host)
    {operations : List (Host.Operation β)} (own : ∀ operation ∈ operations, operation.isOwn d) :
    (host.image d).replay? (host.journal operations) = some ((host.run operations).image d) := by
  induction operations generalizing ledger host with
  | nil => rfl
  | cons operation rest ih =>
    have first := (accounts.journaled (own operation (List.mem_cons_self ..))).replays
    have step := accounts_step accounts (own operation (List.mem_cons_self ..))
    have later := ih step fun next member => own next (List.mem_cons_of_mem operation member)
    change (host.image d).replay? ((host.perform operation).records ++ _) = _
    rw [Image.replay?_append, first, Option.bind_some]
    exact later

/-- The journal of a run leads from nothing to what the host holds, line by line. What fails or
changes nothing adds no line, but for a bind to the same socket; a teardown adds one line for each
queue of its socket, in order, and then one for the socket. -/
theorem journal_replays {capacity : UInt32} {table : Table}
    (made : Table.ofCapacity capacity = .ok table) (miss : MissPolicy)
    (operations : List (Host.Operation β))
    (own : ∀ operation ∈ operations, operation.isOwn 0 = true) :
    let host := (Host.start table [miss]).run operations
    let journal := (Host.start table [miss]).journal operations
    Image.empty.replay? journal = some (host.image 0) ∧
    Image.empty.replayLines? (journal.map Record.line) = some (host.image 0) ∧
    ∀ next : Host.Operation β, next.isOwn 0 = true →
      let result := host.perform next
      (∀ error, result.answer = .outcome (.refused error) → result.records = []) ∧
      (result.host.image 0 = host.image 0 →
        result.records = [] ∨ ∃ queue handle, next = .request 0 (.bind queue handle) ∧
          host.table.lookup queue = some handle) ∧
      ∀ handle, next = .request 0 (.unregister handle) → host.isRegistered 0 handle = true →
        result.answer = .outcome (.unregistered true) ∧ ∃ cleared : List QueueId,
          result.records = cleared.map (.abandoned · handle) ++ [.unregistered handle] ∧
            (cleared.Pairwise fun first second => first.index < second.index) ∧
            ∀ queue, queue ∈ cleared ↔ host.table.lookup queue = some handle := by
  intro host journal
  have fresh : (Host.start table [miss] : Host β).image 0 = Image.empty :=
    Image.ext rfl (funext (Table.lookup_ofCapacity made))
  have replays : Image.empty.replay? journal = some (host.image 0) := by
    rw [← fresh]
    exact (Accounts.start made miss).replay_journal own
  refine ⟨replays, Image.replayLines?_of_replay? replays, ?_⟩
  intro next nextOwn result
  have journaled := (accounts_run (Accounts.start made miss) own).journaled nextOwn
  refine ⟨?_, journaled.silent_of_same, ?_⟩
  · intro error refused
    change (host.perform next).answer = _ at refused
    rw [refused] at journaled
    exact journaled.silent_of_refused
  · intro handle teardown live
    subst teardown
    exact journaled.teardown live

def rebinding : List (Host.Operation Nat) :=
  [.openRing 1, .request 0 (.register 0), .request 0 (.bind ⟨3⟩ ⟨0⟩),
    .request 0 (.bind ⟨1⟩ ⟨0⟩), .request 0 (.bind ⟨3⟩ ⟨0⟩)]

theorem journal_replays_rebinding :
    let host := (Host.start .unbound [.drop]).run rebinding
    let lines := ((Host.start .unbound [.drop]).journal rebinding).map Record.line
    let result := host.perform (.request 0 (.unregister ⟨0⟩))
    Table.ofCapacity 64 = .ok .unbound ∧
      (∀ operation ∈ rebinding, operation.isOwn 0 = true) ∧
      lines = ["DEBUG registered socket #0", "INFO queue 3 -> socket #0 (was None)",
        "INFO queue 1 -> socket #0 (was None)",
        "INFO queue 3 -> socket #0 (was Some(SocketHandle(0)))"] ∧
      Image.empty.replayLines? lines = some (host.image 0) ∧
      host.isRegistered 0 ⟨0⟩ = true ∧ result.answer = .outcome (.unregistered true) ∧
      result.records.map Record.line = ["DEBUG queue 1 unbound from dead socket #0",
        "DEBUG queue 3 unbound from dead socket #0", "DEBUG unregistered socket #0"] := by
  intro host lines result
  have made : Table.ofCapacity 64 = .ok .unbound := rfl
  have own : ∀ operation ∈ rebinding, operation.isOwn 0 = true := by decide
  have live : host.isRegistered 0 ⟨0⟩ = true := by decide +kernel
  obtain ⟨-, replays, next⟩ := journal_replays made .drop rebinding own
  have ends := (next (.request 0 (.unregister ⟨0⟩)) rfl).2.2 ⟨0⟩ rfl live
  exact ⟨made, own, by decide +kernel, replays, live, ends.1, by decide +kernel⟩

end RxSteering
