import Mathlib.Data.List.Induction
import Mathlib.Data.List.Nodup
import Mathlib.Data.List.Perm.Subperm
import RxSteering.Proofs.Delivery

/-!
Where handles come from. The counter wraps and passes over the handles that are still live, so a
registration never takes over a live handle, and while an id is free it finds one. Every
registration leaves the counter one past the handle that it answers, which is why a handle comes
back only after the counter has gone all the way round.
-/
namespace RxSteering

variable {β : Type}

namespace Registry

/-- How many ids a registration takes from the counter: those that it passes over, and the one that
it gives out. -/
def idsTaken (registry : Registry) (counter : UInt32) : Nat :=
  ((registry.passedOver? (registry.size + 1) counter).map (· + 1)).getD 0

theorem mem_handles_of_isLive {registry : Registry} {handle : SocketHandle}
    (live : registry.isLive handle = true) : handle ∈ registry.handles := by
  obtain ⟨ring, found⟩ := Option.isSome_iff_exists.mp live
  obtain ⟨entry, search, -⟩ := Option.map_eq_some_iff.mp found
  have here : entry.1 = handle := by simpa using List.find?_some search
  exact List.mem_map.mpr ⟨entry, List.mem_of_find?_eq_some search, here⟩

theorem live_of_passedOver?_none (registry : Registry) (n : Nat) (counter : UInt32)
    (none : registry.passedOver? n counter = none) (index : Nat) (inside : index < n) :
    registry.isLive ⟨counter + UInt32.ofNat index⟩ = true := by
  induction n generalizing counter index with
  | zero => exact absurd inside (Nat.not_lt_zero index)
  | succ n ih =>
    unfold passedOver? at none
    split at none
    next live =>
      cases index with
      | zero => simpa using live
      | succ index =>
        have later := ih (counter + 1) (Option.map_eq_none_iff.mp none) index (by omega)
        rwa [add_ofNat_succ] at later
    next => cases none

theorem nodup_row (counter : UInt32) {n : Nat} (short : n ≤ UInt32.size) :
    ((List.range n).map fun index => SocketHandle.mk (counter + UInt32.ofNat index)).Nodup := by
  refine List.Nodup.map_on ?_ List.nodup_range
  intro first firstInside second secondInside same
  rw [List.mem_range] at firstInside secondInside
  have equal : UInt32.ofNat first = UInt32.ofNat second := by
    simpa using congrArg SocketHandle.id same
  have numbers := congrArg UInt32.toNat equal
  rwa [UInt32.toNat_ofNat_of_lt' (Nat.lt_of_lt_of_le firstInside short),
    UInt32.toNat_ofNat_of_lt' (Nat.lt_of_lt_of_le secondInside short)] at numbers

theorem row_le_size {registry : Registry} {counter : UInt32} {n : Nat} (short : n ≤ UInt32.size)
    (live : ∀ index < n, registry.isLive ⟨counter + UInt32.ofNat index⟩ = true) :
    n ≤ registry.size := by
  have all : (List.range n).map (fun index => SocketHandle.mk (counter + UInt32.ofNat index)) ⊆
      registry.handles := by
    intro handle member
    obtain ⟨index, inside, rfl⟩ := List.mem_map.mp member
    exact mem_handles_of_isLive (live index (List.mem_range.mp inside))
  have fits := ((nodup_row counter short).subperm all).length_le
  rwa [List.length_map, List.length_range, handles, List.length_map] at fits

/-- While an id is free a registration finds one: one id more than there are live handles cannot
all be live. -/
theorem exists_fresh {registry : Registry} (free : registry.size < UInt32.size) (counter : UInt32) :
    ∃ handle next, registry.fresh? counter = some (handle, next) := by
  cases search : registry.passedOver? (registry.size + 1) counter with
  | some passed => exact ⟨_, _, by rw [fresh?, search]; rfl⟩
  | none =>
    have fits := row_le_size free (registry.live_of_passedOver?_none _ counter search)
    exact absurd fits (Nat.not_succ_le_self registry.size)

theorem next_of_fresh? {registry : Registry} {counter next : UInt32} {handle : SocketHandle}
    (found : registry.fresh? counter = some (handle, next)) :
    next = handle.id + 1 ∧ next = counter + UInt32.ofNat (registry.idsTaken counter) ∧
      0 < registry.idsTaken counter := by
  obtain ⟨passed, search, same⟩ := Option.map_eq_some_iff.mp found
  cases same
  have taken : registry.idsTaken counter = passed + 1 := by rw [idsTaken, search]; rfl
  rw [taken, UInt32.ofNat_add, ← UInt32.add_assoc]
  exact ⟨rfl, rfl, Nat.succ_pos passed⟩

theorem idsTaken_of_full {registry : Registry} {counter : UInt32}
    (full : registry.fresh? counter = none) : registry.idsTaken counter = 0 := by
  rw [idsTaken, Option.map_eq_none_iff.mp full]
  rfl

end Registry

namespace Host

def idsTaken (host : Host β) : Operation β → Nat
  | .request d (.register _) => (host.dispatcher d).registry.idsTaken (host.dispatcher d).nextHandle
  | _ => 0

def idsTakenBy (host : Host β) : List (Operation β) → Nat
  | [] => 0
  | operation :: rest => host.idsTaken operation + (host.perform operation).host.idsTakenBy rest

theorem idsTakenBy_append (host : Host β) (first second : List (Operation β)) :
    host.idsTakenBy (first ++ second) =
      host.idsTakenBy first + (host.run first).idsTakenBy second := by
  induction first generalizing host with
  | nil => simp [idsTakenBy, run]
  | cons operation rest ih =>
    rw [List.cons_append, idsTakenBy, idsTakenBy, ih, Nat.add_assoc]
    rfl

theorem nextHandle_addSocket {host : Host β} {d : DispatcherId}
    (inside : d < host.dispatchers.length) (handle : SocketHandle) (next : UInt32)
    (ring : RingId) : ((host.addSocket d handle next ring).dispatcher d).nextHandle = next := by
  change ((host.modifyDispatcher d _).dispatcher d).nextHandle = next
  rw [dispatcher_modifyDispatcher, if_pos ⟨rfl, inside⟩]

theorem nextHandle_removeSocket (host : Host β) (d : DispatcherId) (handle : SocketHandle)
    (ring : RingId) :
    ((host.removeSocket d handle ring).dispatcher d).nextHandle =
      (host.dispatcher d).nextHandle := by
  change ((host.modifyDispatcher d _).dispatcher d).nextHandle = _
  rw [dispatcher_modifyDispatcher]
  split
  · rfl
  · rfl

end Host

variable {d : DispatcherId} {ledger : List Change} {host : Host β}

theorem nextHandle_request (accounts : Accounts d ledger host) (request : Request) :
    ((host.request d request).2.2.dispatcher d).nextHandle =
      (host.dispatcher d).nextHandle + UInt32.ofNat (host.idsTaken (.request d request)) := by
  have went := Host.requested accounts.canonical d request
  have same (next : UInt32) : next = next + UInt32.ofNat 0 := (UInt32.add_zero next).symm
  generalize host.request d request = result at went ⊢
  cases went with
  | registered found ring =>
    dsimp only
    rw [Host.nextHandle_addSocket accounts.inside, Host.idsTaken]
    exact (Registry.next_of_fresh? found).2.1
  | exhausted full ring =>
    rw [Host.idsTaken, Registry.idsTaken_of_full full]
    exact same _
  | @unregistered handle ring leads =>
    exact (host.nextHandle_removeSocket d handle ring).trans (same _)
  | notThere unknown => exact same _
  | bound leads inside => exact same _
  | unknownSocket unknown queue => exact same _
  | noSlotToBind leads outside => exact same _
  | unbound inside => exact same _
  | noSlotToUnbind outside => exact same _

theorem nextHandle_perform (accounts : Accounts d ledger host) {operation : Host.Operation β}
    (own : operation.isOwn d = true) :
    ((host.perform operation).host.dispatcher d).nextHandle =
      (host.dispatcher d).nextHandle + UInt32.ofNat (host.idsTaken operation) := by
  cases operation with
  | request e request =>
    obtain rfl : e = d := by simpa [Host.Operation.isOwn] using own
    exact nextHandle_request accounts request
  | dispatch e frame =>
    have same := (Host.registry_of_sockets (host.sockets_dispatch e frame) d).2
    exact same.trans (UInt32.add_zero _).symm
  | table operation => exact (UInt32.add_zero _).symm
  | openRing depth => exact (UInt32.add_zero _).symm
  | ring id operation => exact (UInt32.add_zero _).symm

theorem nextHandle_run (accounts : Accounts d ledger host) {operations : List (Host.Operation β)}
    (own : ∀ operation ∈ operations, operation.isOwn d = true) :
    ((host.run operations).dispatcher d).nextHandle =
      (host.dispatcher d).nextHandle + UInt32.ofNat (host.idsTakenBy operations) := by
  induction operations generalizing ledger host with
  | nil => exact (UInt32.add_zero _).symm
  | cons operation rest ih =>
    have here := own operation (List.mem_cons_self ..)
    have later := ih (accounts_step accounts here) fun next member =>
      own next (List.mem_cons_of_mem operation member)
    change (((host.perform operation).host.run rest).dispatcher d).nextHandle = _
    rw [later, nextHandle_perform accounts here, Host.idsTakenBy, UInt32.ofNat_add,
      UInt32.add_assoc]

theorem fresh?_of_registered {ring : RingId} {handle : SocketHandle}
    (answered : (host.perform (.request d (.register ring))).answer =
      .outcome (.registered handle)) :
    ∃ next, (host.dispatcher d).registry.fresh? (host.dispatcher d).nextHandle =
        some (handle, next) ∧
      (host.perform (.request d (.register ring))).host = host.addSocket d handle next ring := by
  cases search : (host.dispatcher d).registry.fresh? (host.dispatcher d).nextHandle with
  | none =>
    change Host.Answer.outcome (host.request d (.register ring)).1 = _ at answered
    rw [Host.request_register_full search] at answered
    cases answered
  | some found =>
    obtain ⟨other, next⟩ := found
    change Host.Answer.outcome (host.request d (.register ring)).1 = _ at answered
    rw [Host.request_register search] at answered
    cases answered
    refine ⟨next, rfl, ?_⟩
    change (host.request d (.register ring)).2.2 = _
    rw [Host.request_register search]

theorem nextHandle_of_registered (accounts : Accounts d ledger host) {ring : RingId}
    {handle : SocketHandle}
    (answered : (host.perform (.request d (.register ring))).answer =
      .outcome (.registered handle)) :
    ((host.perform (.request d (.register ring))).host.dispatcher d).nextHandle =
        handle.id + 1 ∧
      0 < host.idsTaken (.request d (.register ring)) := by
  obtain ⟨next, search, after⟩ := fresh?_of_registered answered
  obtain ⟨past, -, some⟩ := Registry.next_of_fresh? search
  rw [after, Host.nextHandle_addSocket accounts.inside]
  exact ⟨past, some⟩

theorem rounds_of_reissue (accounts : Accounts d ledger host) {ring later : RingId}
    {between : List (Host.Operation β)} {handle : SocketHandle}
    (own : ∀ operation ∈ between, operation.isOwn d = true)
    (first : (host.perform (.request d (.register ring))).answer = .outcome (.registered handle))
    (second : (((host.perform (.request d (.register ring))).host.run between).perform
      (.request d (.register later))).answer = .outcome (.registered handle)) :
    ∃ rounds, 0 < rounds ∧
      (host.perform (.request d (.register ring))).host.idsTakenBy
        (between ++ [.request d (.register later)]) = rounds * UInt32.size := by
  have ownRegister (ring : RingId) :
      (.request d (.register ring) : Host.Operation β).isOwn d = true := decide_eq_true rfl
  have start := accounts_step accounts (ownRegister ring)
  obtain ⟨atFirst, -⟩ := nextHandle_of_registered accounts first
  generalize (host.perform (.request d (.register ring))).host = registered at *
  obtain ⟨atSecond, some⟩ := nextHandle_of_registered (accounts_run start own) second
  have ownAll : ∀ operation ∈ between ++ [.request d (.register later)],
      operation.isOwn d = true := by
    intro operation member
    rcases List.mem_append.mp member with inside | last
    · exact own operation inside
    · rw [List.mem_singleton.mp last]
      exact ownRegister later
  have moved := nextHandle_run start ownAll
  have taken : registered.idsTakenBy (between ++ [.request d (.register later)]) =
      registered.idsTakenBy between +
        ((registered.run between).idsTaken (.request d (.register later)) + 0) :=
    registered.idsTakenBy_append between _
  have last : registered.run (between ++ [.request d (.register later)]) =
      ((registered.run between).perform (.request d (.register later))).host :=
    List.foldl_append ..
  rw [last, atSecond, atFirst] at moved
  have whole :
      registered.idsTakenBy (between ++ [.request d (.register later)]) % UInt32.size = 0 := by
    have zero : UInt32.ofNat (registered.idsTakenBy (between ++ [.request d (.register later)])) =
        0 := by simpa using moved.symm
    simpa using congrArg UInt32.toNat zero
  refine ⟨registered.idsTakenBy (between ++ [.request d (.register later)]) / UInt32.size, ?_, ?_⟩
  · rw [UInt32.size] at whole ⊢
    omega
  · rw [UInt32.size] at whole ⊢
    omega

def IsEnrolled (ledger : List Change) (handle : SocketHandle) : Prop :=
  Since (fun _ change => ∃ ring, change = .registered handle ring)
    (fun change => change = .unregistered handle) ledger

theorem isEnrolled_iff (ledger : List Change) (handle : SocketHandle) :
    IsEnrolled ledger handle ↔ ∃ ring, LeadsTo ledger handle ring := by
  induction ledger using List.reverseRecOn with
  | nil => exact iff_of_false (not_since_nil _ _) fun ⟨_, leads⟩ => not_since_nil _ _ leads
  | append_singleton ledger change ih =>
    rw [IsEnrolled, since_append_singleton]
    change _ ∨ (IsEnrolled ledger handle ∧ _) ↔ _
    simp only [ih, leadsTo_append]
    constructor
    · rintro (⟨ring, same⟩ | ⟨⟨ring, leads⟩, stays⟩)
      · exact ⟨ring, .inl same⟩
      · by_cases again : ∃ other, change = .registered handle other
        · exact again.imp fun _ same => .inl same
        · exact ⟨ring, .inr ⟨leads, fun ends => ends.elim again stays⟩⟩
    · rintro ⟨ring, same | ⟨leads, stays⟩⟩
      · exact .inl ⟨ring, same⟩
      · exact .inr ⟨⟨ring, leads⟩, fun ends => stays (.inr ends)⟩

/-- What a host with one dispatcher does with handles, when its changes were these. -/
structure Host.SoundHandles (host : Host β) (ledger : List Change) : Prop where
  finds : (host.dispatcher 0).registry.size < UInt32.size → ∀ ring, ∃ handle,
    (host.perform (.request 0 (.register ring))).answer = .outcome (.registered handle)
  fresh : ∀ ring handle,
    (host.perform (.request 0 (.register ring))).answer = .outcome (.registered handle) →
    host.isRegistered 0 handle = false
  leads : ∀ ring handle,
    (host.perform (.request 0 (.register ring))).answer = .outcome (.registered handle) →
    (host.perform (.request 0 (.register ring))).host.socket? 0 handle = some ring
  keeps : ∀ ring handle,
    (host.perform (.request 0 (.register ring))).answer = .outcome (.registered handle) →
    ∀ other target, host.socket? 0 other = some target →
      (host.perform (.request 0 (.register ring))).host.socket? 0 other = some target
  /-- the live handles are those that were answered and not torn down since -/
  enrolled : ∀ handle, host.isRegistered 0 handle = true ↔ IsEnrolled ledger handle
  latest : ∀ handle ring, host.socket? 0 handle = some ring ↔ LeadsTo ledger handle ring
  answers : ∀ handle, (host.perform (.request 0 (.unregister handle))).answer =
    .outcome (.unregistered (host.isRegistered 0 handle))
  /-- a handle comes back only once the counter has gone round -/
  reissued : ∀ ring later handle between, (∀ operation ∈ between, operation.isOwn 0 = true) →
    (host.perform (.request 0 (.register ring))).answer = .outcome (.registered handle) →
    (((host.perform (.request 0 (.register ring))).host.run between).perform
      (.request 0 (.register later))).answer = .outcome (.registered handle) →
    ∃ rounds, 0 < rounds ∧
      (host.perform (.request 0 (.register ring))).host.idsTakenBy
        (between ++ [.request 0 (.register later)]) = rounds * UInt32.size

/-- In every run of a dispatcher a registration finds a handle while an id is free, never takes over
a live one and leaves the others as they were. -/
theorem handles_are_sound {capacity : UInt32} {table : Table}
    (made : Table.ofCapacity capacity = .ok table) (miss : MissPolicy)
    (operations : List (Host.Operation β))
    (own : ∀ operation ∈ operations, operation.isOwn 0 = true) :
    ((Host.start table [miss]).run operations).SoundHandles
      ((Host.start table [miss]).changes operations) := by
  let host : Host β := (Host.start table [miss]).run operations
  let ledger := (Host.start table [miss]).changes operations
  have accounts : Accounts 0 ledger host := accounts_run (Accounts.start made miss) own
  have free {ring : RingId} {handle : SocketHandle}
      (answered : (host.perform (.request 0 (.register ring))).answer =
        .outcome (.registered handle)) : host.socket? 0 handle = none := by
    obtain ⟨next, search, -⟩ := fresh?_of_registered answered
    exact Registry.fresh?_free search
  constructor
  case finds =>
    intro room ring
    obtain ⟨handle, next, search⟩ := Registry.exists_fresh room (host.dispatcher 0).nextHandle
    refine ⟨handle, ?_⟩
    change Host.Answer.outcome (host.request 0 (.register ring)).1 = _
    rw [Host.request_register search]
  case fresh => exact fun ring handle answered => Host.not_isRegistered_iff.mpr (free answered)
  case leads =>
    intro ring handle answered
    obtain ⟨next, -, after⟩ := fresh?_of_registered answered
    rw [after, host.socket?_addSocket handle next ring accounts.inside, if_pos rfl]
  case keeps =>
    intro ring handle answered other target leads
    obtain ⟨next, -, after⟩ := fresh?_of_registered answered
    have apart : handle ≠ other := by
      rintro rfl
      cases (free answered).symm.trans leads
    rw [after, host.socket?_addSocket handle next ring accounts.inside, if_neg apart]
    exact leads
  case enrolled =>
    intro handle
    rw [Host.isRegistered_iff, isEnrolled_iff]
    exact exists_congr fun ring => accounts.leads handle ring
  case latest => exact accounts.leads
  case answers =>
    intro handle
    change Host.Answer.outcome (host.request 0 (.unregister handle)).1 = _
    cases seen : host.socket? 0 handle with
    | none =>
      rw [Host.request_unregister_unknown seen, Host.not_isRegistered_iff.mpr seen]
    | some ring =>
      rw [Host.request_unregister accounts.canonical seen, Host.isRegistered_iff.mpr ⟨ring, seen⟩]
  case reissued =>
    exact fun ring later handle between ownBetween => rounds_of_reissue accounts ownBetween

def arrivals : List (Host.Operation Nat) :=
  [.openRing 1, .request 0 (.register 0), .request 0 (.register 0), .request 0 (.unregister ⟨0⟩)]

theorem handles_are_sound_after_arrivals :
    Table.ofCapacity 64 = .ok .unbound ∧ (∀ operation ∈ arrivals, operation.isOwn 0 = true) ∧
      (((Host.start .unbound [.drop]).run arrivals).perform
        (.request 0 (.unregister ⟨1⟩))).answer = .outcome (.unregistered true) ∧
      IsEnrolled ((Host.start .unbound [.drop]).changes arrivals) ⟨1⟩ ∧
      ¬ IsEnrolled ((Host.start .unbound [.drop]).changes arrivals) ⟨0⟩ := by
  have made : Table.ofCapacity 64 = .ok .unbound := rfl
  have own : ∀ operation ∈ arrivals, operation.isOwn 0 = true := by decide
  have sound := handles_are_sound made .drop arrivals own
  have live : ((Host.start .unbound [.drop]).run arrivals).isRegistered 0 ⟨1⟩ = true := by
    decide +kernel
  have gone : ((Host.start .unbound [.drop]).run arrivals).isRegistered 0 ⟨0⟩ = false := by
    decide +kernel
  refine ⟨made, own, ?_, (sound.enrolled ⟨1⟩).mp live, ?_⟩
  · rw [sound.answers ⟨1⟩, live]
  · rw [← sound.enrolled ⟨0⟩, gone]
    exact Bool.false_ne_true

end RxSteering
