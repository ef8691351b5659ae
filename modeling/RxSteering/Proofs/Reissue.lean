import RxSteering.Proofs.HandleSupply

/-!
What becomes of a frame whose socket is torn down after the frame was classified. Between its two
halves a dispatch remembers the handle only, so what counts is where the handle leads by then: to
nothing, and the frame is dropped, unless a registration has answered the handle again. That takes
a counter that has gone round since the socket was registered; then the frame is offered to the ring
of the new socket.
-/
namespace RxSteering

variable {β : Type} {d : DispatcherId} {ledger : List Change} {host : Host β}

theorem since_append_of_ended {starts : Change → Prop} {ends : Change → Prop}
    (earlier : List Change) {later : List Change} (ended : ∃ change ∈ later, ends change) :
    Since (fun _ => starts) ends (earlier ++ later) ↔ Since (fun _ => starts) ends later := by
  constructor
  · rintro ⟨before, change, after, split, started, lasting⟩
    rcases List.append_eq_append_iff.mp split with ⟨gap, -, rfl⟩ | ⟨gap, rfl, rest⟩
    · exact ⟨gap, change, after, rfl, started, lasting⟩
    · cases gap with
      | nil => exact ⟨[], change, after, rest.symm, started, lasting⟩
      | cons first gap =>
        obtain ⟨-, rfl⟩ := List.cons.inj rest
        obtain ⟨last, member, finishes⟩ := ended
        exact absurd finishes (lasting last (List.mem_append_right gap member))
  · rintro ⟨before, change, after, rfl, started, lasting⟩
    exact ⟨earlier ++ before, change, after, (List.append_assoc ..).symm, started, lasting⟩

theorem leadsTo_of_torn (earlier : List Change) {later : List Change} {handle : SocketHandle}
    (torn : .unregistered handle ∈ later) (ring : RingId) :
    LeadsTo (earlier ++ later) handle ring ↔ LeadsTo later handle ring :=
  since_append_of_ended earlier ⟨_, torn, .inr rfl⟩

theorem exists_of_mem_changes {operations : List (Host.Operation β)} {change : Change}
    (member : change ∈ host.changes operations) :
    ∃ before operation after, operations = before ++ operation :: after ∧
      Change.of? operation ((host.run before).perform operation).answer = some change := by
  induction operations generalizing host with
  | nil => cases member
  | cons operation rest ih =>
    rcases List.mem_append.mp member with here | later
    · exact ⟨[], operation, rest, rfl, Option.mem_toList.mp here⟩
    · obtain ⟨before, found, after, rfl, made⟩ := ih later
      exact ⟨operation :: before, found, after, rfl, made⟩

theorem Change.register_of_of? {operation : Host.Operation β} {answer : Host.Answer β}
    {handle : SocketHandle} {ring : RingId}
    (made : Change.of? operation answer = some (.registered handle ring)) :
    (∃ e, operation = .request e (.register ring)) ∧ answer = .outcome (.registered handle) := by
  unfold Change.of? at made
  split at made
  · cases made
    exact ⟨⟨_, rfl⟩, rfl⟩
  · cases made
  · cases made
  · cases made
  · cases made

/-- A handle that is answered twice takes the counter all the way round. -/
theorem round_of_registered_twice (accounts : Accounts d ledger host)
    {first second : List (Host.Operation β)}
    (own : ∀ operation ∈ first ++ second, operation.isOwn d = true) {handle : SocketHandle}
    {ring again : RingId} (once : .registered handle ring ∈ host.changes first)
    (twice : .registered handle again ∈ (host.run first).changes second) :
    UInt32.size < host.idsTakenBy (first ++ second) := by
  obtain ⟨before, operation, middle, rfl, made⟩ := exists_of_mem_changes once
  obtain ⟨⟨e, rfl⟩, answered⟩ := Change.register_of_of? made
  obtain ⟨between, operation, after, rfl, made⟩ := exists_of_mem_changes twice
  obtain ⟨⟨e', rfl⟩, answeredAgain⟩ := Change.register_of_of? made
  obtain rfl : e = d := by
    simpa [Host.Operation.isOwn] using own (.request e (.register ring)) (by simp)
  obtain rfl : e' = e := by
    simpa [Host.Operation.isOwn] using own (.request e' (.register again)) (by simp)
  have here : Accounts e' (ledger ++ host.changes before) (host.run before) :=
    accounts_run accounts fun operation member => own operation (by simp [member])
  have onTheWay : ∀ operation ∈ middle ++ between, operation.isOwn e' = true := by
    intro operation member
    refine own operation ?_
    rcases List.mem_append.mp member with inside | inside
    · simp [inside]
    · simp [inside]
  have state : host.run (before ++ .request e' (.register ring) :: middle ++ between) =
      ((host.run before).perform (.request e' (.register ring))).host.run (middle ++ between) := by
    simp only [Host.run, List.foldl_append, List.foldl_cons]
  have again' : ((((host.run before).perform (.request e' (.register ring))).host.run
      (middle ++ between)).perform (.request e' (.register again))).answer =
        .outcome (.registered handle) := by
    rw [← state, Host.run, List.foldl_append]
    exact answeredAgain
  obtain ⟨rounds, some, taken⟩ := rounds_of_reissue here onTheWay answered again'
  have first := (nextHandle_of_registered here answered).2
  have split : before ++ .request e' (.register ring) :: middle ++
        (between ++ .request e' (.register again) :: after) =
      before ++ (.request e' (.register ring) ::
        ((middle ++ between ++ [.request e' (.register again)]) ++ after)) := by simp
  rw [split, Host.idsTakenBy_append, Host.idsTakenBy, Host.idsTakenBy_append, taken]
  have whole : UInt32.size ≤ rounds * UInt32.size := Nat.le_mul_of_pos_left _ some
  omega

namespace Host

theorem transfer_of_gone {handle : SocketHandle} (gone : host.socket? d handle = none)
    (payload : β) :
    (host.transfer d handle payload).1 = .dropped .targetUnavailable ∧
      (host.transfer d handle payload).2.rings = host.rings := by
  have offered : host.offer d handle payload = (.dropped .targetUnavailable, host) := by
    rw [offer_eq_offerTo, gone]
    rfl
  rw [transfer, offered]
  exact ⟨rfl, rfl⟩

theorem transfer_of_live {handle : SocketHandle} {ring : RingId}
    (leads : host.socket? d handle = some ring) (payload : β) :
    if (host.ring ring).hasRoom then
      (host.transfer d handle payload).1 = .redirected handle ∧
        (host.transfer d handle payload).2.rings =
          host.rings.set ring ((host.ring ring).push payload)
    else
      (host.transfer d handle payload).1 = .dropped .targetUnavailable ∧
        (host.transfer d handle payload).2.rings = host.rings := by
  have offered := host.offerTo_eq handle (some ring) payload
  rw [← leads, ← offer_eq_offerTo, leads, Option.filter_some] at offered
  rw [transfer, offered]
  cases (host.ring ring).hasRoom with
  | true => exact ⟨rfl, host.rings_take (some ring) payload⟩
  | false => exact ⟨rfl, rfl⟩

end Host

/-- A frame whose socket was torn down after it was classified is dropped, and no ring receives it,
unless a later registration has answered the handle again and is not over; then it is offered to
the ring of that registration. While the run has taken no more ids than there are, no registration
has. -/
theorem transfer_after_teardown {capacity : UInt32} {table : Table}
    (made : Table.ofCapacity capacity = .ok table) (miss : MissPolicy)
    {earlier between : List (Host.Operation β)}
    (own : ∀ operation ∈ earlier ++ between, operation.isOwn 0 = true)
    {frame : Frame β} {handle : SocketHandle}
    (redirects : (((Host.start table [miss]).run earlier).classifier 0).classify frame =
      .redirect handle)
    (torn : .unregistered handle ∈ ((Host.start table [miss]).run earlier).changes between) :
    let start : Host β := Host.start table [miss]
    let later := (start.run earlier).run between
    let result := later.transfer 0 handle frame.payload
    let meanwhile := (start.run earlier).changes between
    ((∀ ring, ¬ LeadsTo meanwhile handle ring) →
      result.1 = .dropped .targetUnavailable ∧ result.2.rings = later.rings) ∧
    (∀ ring, LeadsTo meanwhile handle ring →
      if (later.ring ring).hasRoom then
        result.1 = .redirected handle ∧
          result.2.rings = later.rings.set ring ((later.ring ring).push frame.payload)
      else result.1 = .dropped .targetUnavailable ∧ result.2.rings = later.rings) ∧
    (start.idsTakenBy (earlier ++ between) ≤ UInt32.size →
      ∀ ring, ¬ LeadsTo meanwhile handle ring) := by
  intro start later result meanwhile
  have first : Accounts 0 (start.changes earlier) (start.run earlier) :=
    accounts_run (Accounts.start made miss) fun operation member => own operation (by simp [member])
  have accounts : Accounts 0 (start.changes earlier ++ meanwhile) later :=
    accounts_run first fun operation member => own operation (by simp [member])
  have leads (ring : RingId) :
      later.socket? 0 handle = some ring ↔ LeadsTo meanwhile handle ring :=
    (accounts.leads handle ring).trans (leadsTo_of_torn _ torn ring)
  refine ⟨?_, ?_, ?_⟩
  · intro unused
    have gone : later.socket? 0 handle = none :=
      Option.eq_none_iff_forall_ne_some.mpr fun ring there => unused ring ((leads ring).mp there)
    exact Host.transfer_of_gone gone frame.payload
  · intro ring again
    exact Host.transfer_of_live ((leads ring).mpr again) frame.payload
  · intro few ring again
    obtain ⟨once, live⟩ := first.live _ _ (Host.lookup_of_redirect redirects)
    obtain ⟨before, change, after, split, rfl, -⟩ := (first.leads handle once).mp live
    obtain ⟨before', change', after', split', rfl, -⟩ := again
    have earlierOne : .registered handle once ∈ start.changes earlier := by
      rw [split]
      exact List.mem_append_right before (List.mem_cons_self ..)
    have laterOne : .registered handle ring ∈ meanwhile := by
      rw [split']
      exact List.mem_append_right before' (List.mem_cons_self ..)
    have round := round_of_registered_twice (Accounts.start made miss) own earlierOne laterOne
    exact absurd few (Nat.not_le.mpr round)

def succession : List (Host.Operation Nat) :=
  [.request 0 (.unregister ⟨0⟩), .request 0 (.register 1), .request 0 (.bind ⟨3⟩ ⟨1⟩)]

def boundPair : List (Host.Operation Nat) :=
  [.openRing 1, .openRing 1, .request 0 (.register 0), .request 0 (.bind ⟨3⟩ ⟨0⟩)]

theorem transfer_after_succession :
    let host := (Host.start .unbound [.drop]).run boundPair
    let later := host.run succession
    Table.ofCapacity 64 = .ok .unbound ∧
      (∀ operation ∈ boundPair ++ succession, operation.isOwn 0 = true) ∧
      (host.classifier 0).classify ⟨3, 7⟩ = .redirect ⟨0⟩ ∧
      .unregistered ⟨0⟩ ∈ host.changes succession ∧
      (Host.start .unbound [.drop]).idsTakenBy (boundPair ++ succession) ≤ UInt32.size ∧
      (later.transfer 0 ⟨0⟩ 7).1 = .dropped .targetUnavailable ∧
      (later.transfer 0 ⟨0⟩ 7).2.rings = later.rings := by
  intro host later
  have made : Table.ofCapacity 64 = .ok .unbound := rfl
  have own : ∀ operation ∈ boundPair ++ succession, operation.isOwn 0 = true := by decide
  have redirects : (host.classifier 0).classify ⟨3, 7⟩ = .redirect ⟨0⟩ := by decide +kernel
  have torn : .unregistered ⟨0⟩ ∈ host.changes succession := by decide +kernel
  have few : (Host.start .unbound [.drop]).idsTakenBy (boundPair ++ succession) ≤
      UInt32.size := by decide +kernel
  have whole := transfer_after_teardown made .drop own redirects torn
  exact ⟨made, own, redirects, torn, few, whole.1 (whole.2.2 few)⟩

/-- Sockets that come and go one after the other, with the handles from `next` on. -/
def churn (ring : RingId) : Nat → UInt32 → List (Host.Operation β)
  | 0, _ => []
  | n + 1, next =>
    .request 0 (.register ring) :: .request 0 (.unregister ⟨next⟩) :: churn ring n (next + 1)

structure Host.Idle (host : Host β) (next : UInt32) : Prop where
  inside : 0 < host.dispatchers.length
  table : host.table = .unbound
  registry : (host.dispatcher 0).registry = .empty
  nextHandle : (host.dispatcher 0).nextHandle = next

namespace Host.Idle

variable {next : UInt32}

theorem request_register (idle : host.Idle next) (ring : RingId) :
    host.request 0 (.register ring) = (.registered ⟨next⟩, [.registered ⟨next⟩],
      host.addSocket 0 ⟨next⟩ (next + 1) ring) := by
  apply Host.request_register
  rw [idle.registry, idle.nextHandle]
  simp [Registry.fresh?, Registry.passedOver?, Registry.empty, Registry.isLive, Registry.ring?]

theorem comeAndGo (idle : host.Idle next) (ring : RingId) :
    let after := host.run [.request 0 (.register ring), .request 0 (.unregister ⟨next⟩)]
    after.Idle (next + 1) ∧ after.rings = host.rings := by
  intro after
  have made : Table.ofCapacity 64 = .ok .unbound := rfl
  let come := host.addSocket 0 ⟨next⟩ (next + 1) ring
  have inside : 0 < come.dispatchers.length := by
    rw [host.length_addSocket]
    exact idle.inside
  have table : come.table = .unbound := idle.table
  have canonical : come.table.Canonical := by
    rw [table]
    exact Table.Canonical.ofCapacity made
  have leads : come.socket? 0 ⟨next⟩ = some ring := by
    rw [host.socket?_addSocket _ _ _ idle.inside, if_pos rfl]
  have state : after =
      (come.removeSocket 0 ⟨next⟩ ring).withTable (come.table.clearSocket ⟨next⟩) := by
    change ((host.request 0 (.register ring)).2.2.request 0 (.unregister ⟨next⟩)).2.2 = _
    rw [idle.request_register, request_unregister canonical leads]
  have dispatcher : after.dispatcher 0 = (come.removeSocket 0 ⟨next⟩ ring).dispatcher 0 := by
    rw [state]
    rfl
  have rings : after.rings = host.rings := by
    rw [state]
    change (host.rings.modify ring Ring.addProducer).modify ring Ring.dropProducer = host.rings
    rw [List.modify_modify_eq]
    exact List.modify_id ring host.rings
  refine ⟨⟨?_, ?_, ?_, ?_⟩, rings⟩
  · rw [state]
    exact (come.length_removeSocket 0 ⟨next⟩ ring).symm ▸ inside
  · rw [state, table]
    apply Table.clearSocket_of_unbound
    intro queue
    rw [Table.lookup_ofCapacity made]
    exact nofun
  · rw [dispatcher, come.registry_removeSocket _ _ inside,
      host.registry_addSocket _ _ _ idle.inside, idle.registry]
    simp [Registry.empty, Registry.insert, Registry.erase]
  · rw [dispatcher, nextHandle_removeSocket, nextHandle_addSocket idle.inside]

theorem churn (idle : host.Idle next) (ring : RingId) (n : Nat) :
    (host.run (RxSteering.churn ring n next)).Idle (next + UInt32.ofNat n) ∧
      (host.run (RxSteering.churn ring n next)).rings = host.rings := by
  induction n generalizing host next with
  | zero => simpa [RxSteering.churn, Host.run] using idle
  | succ n ih =>
    obtain ⟨idleOnce, ringsOnce⟩ := idle.comeAndGo ring
    obtain ⟨idleThen, ringsThen⟩ := ih idleOnce
    rw [Registry.add_ofNat_succ] at idleThen
    exact ⟨idleThen, ringsThen.trans ringsOnce⟩

end Host.Idle

theorem isOwn_churn (ring : RingId) (n : Nat) (next : UInt32) :
    ∀ operation ∈ (churn ring n next : List (Host.Operation β)), operation.isOwn 0 = true := by
  induction n generalizing next with
  | zero => exact nofun
  | succ n ih =>
    intro operation member
    rcases List.mem_cons.mp member with rfl | member
    · rfl
    · rcases List.mem_cons.mp member with rfl | member
      · rfl
      · exact ih (next + 1) operation member

/-- The socket goes, others come and go until the counter is back where it began, and a socket
comes with another ring. -/
def roundTrip (n : Nat) : List (Host.Operation Nat) :=
  .request 0 (.unregister ⟨0⟩) :: (churn 1 n 1 ++ [.request 0 (.register 1)])

theorem transfer_after_roundTrip {n : Nat} (round : 1 + UInt32.ofNat n = 0) :
    let host := (Host.start .unbound [.drop]).run boundPair
    let later := host.run (roundTrip n)
    (∀ operation ∈ boundPair ++ roundTrip n, operation.isOwn 0 = true) ∧
      .unregistered ⟨0⟩ ∈ host.changes (roundTrip n) ∧
      (later.transfer 0 ⟨0⟩ 7).1 = .redirected ⟨0⟩ ∧
      (later.transfer 0 ⟨0⟩ 7).2.rings.map Ring.queued = [[], [7]] := by
  intro host later
  let torn := (host.request 0 (.unregister ⟨0⟩)).2.2
  have idle : torn.Idle 1 := ⟨by decide +kernel, by decide +kernel, by decide +kernel,
    by decide +kernel⟩
  obtain ⟨idleLast, rings⟩ := idle.churn 1 n
  rw [round] at idleLast
  let last := torn.run (churn 1 n 1)
  have state : later = last.addSocket 0 ⟨0⟩ 1 1 := by
    change torn.run (churn 1 n 1 ++ [.request 0 (.register 1)]) = _
    rw [Host.run, List.foldl_append]
    change (last.request 0 (.register 1)).2.2 = _
    rw [idleLast.request_register]
    rfl
  have leads : later.socket? 0 ⟨0⟩ = some 1 := by
    rw [state, last.socket?_addSocket _ _ _ idleLast.inside, if_pos rfl]
  have laterRings : later.rings = torn.rings.modify 1 Ring.addProducer := by
    rw [state, ← rings]
    rfl
  have room : (later.ring 1).hasRoom = true := by
    rw [Host.ring, laterRings]
    decide +kernel
  have outcome := Host.transfer_of_live leads 7
  rw [if_pos room] at outcome
  refine ⟨?_, ?_, outcome.1, ?_⟩
  · have own : ∀ operation ∈ boundPair, operation.isOwn 0 = true := by decide
    intro operation member
    rcases List.mem_append.mp member with before | member
    · exact own operation before
    · rcases List.mem_cons.mp member with rfl | member
      · rfl
      · rcases List.mem_append.mp member with between | after
        · exact isOwn_churn 1 n 1 operation between
        · rw [List.mem_singleton.mp after]
          rfl
  · have first : Change.of? (.request 0 (.unregister ⟨0⟩))
        (host.perform (.request 0 (.unregister ⟨0⟩))).answer = some (.unregistered ⟨0⟩) := by
      decide +kernel
    exact List.mem_append_left _ (Option.mem_toList.mpr first)
  · rw [outcome.2, Host.ring, laterRings]
    decide +kernel

/-- When all ids but one are given out in between, the frame of the first socket ends up in the ring
of the last. -/
theorem transfer_to_reissued_handle :
    let host := (Host.start .unbound [.drop]).run boundPair
    let later := host.run (roundTrip (UInt32.size - 1))
    (host.classifier 0).classify ⟨3, 7⟩ = .redirect ⟨0⟩ ∧
      (∀ operation ∈ boundPair ++ roundTrip (UInt32.size - 1), operation.isOwn 0 = true) ∧
      .unregistered ⟨0⟩ ∈ host.changes (roundTrip (UInt32.size - 1)) ∧
      (later.transfer 0 ⟨0⟩ 7).1 = .redirected ⟨0⟩ ∧
      (later.transfer 0 ⟨0⟩ 7).2.rings.map Ring.queued = [[], [7]] :=
  ⟨by decide +kernel, transfer_after_roundTrip (by decide)⟩

end RxSteering
