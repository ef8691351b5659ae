import RxSteering.Proofs.LedgerOrder
import RxSteering.Proofs.Retries

/-!
Any number of calls on one dispatcher that register, unregister and bind sockets at the same time,
each taking its steps whenever it likes. The changes that were published are kept in a ledger, each
with the call that made it, and the ledger accounts for every live socket and for every answer.
-/
namespace RxSteering

variable {β : Type}

def Call.request : Call → Request
  | asked request => request
  | publish queue handle => .bind queue handle
  | confirm queue handle _ => .bind queue handle
  | retract queue handle => .bind queue handle
  | scan handle .. => .unregister handle
  | sweep handle _ => .unregister handle

def Call.isRevision : Call → Bool
  | asked (.register _) => true
  | asked (.unregister _) => true
  | _ => false

/-- Where a call stands that updates the registry in several steps, and then may go on. -/
inductive Stage where
  | revising (revision : Revision)
  | calling (call : Call)
  | done (outcome : Outcome)
  deriving DecidableEq, Repr

def Progress.stage : Progress → Stage
  | ongoing call => .calling call
  | finished outcome => .done outcome

def Stage.handle? : Stage → Option SocketHandle
  | done (.registered handle) => some handle
  | _ => none

/-- What an unregistration answers, or will answer once it has been through the table. -/
def Stage.hasRemoved : Stage → Bool
  | revising _ => false
  | calling _ => true
  | done outcome => outcome = .unregistered true

structure Party where
  request : Request
  stage : Stage
  deriving DecidableEq, Repr

def Request.stage : Request → Stage
  | register ring => .revising (.register ring)
  | unregister handle => .revising (.unregister handle)
  | bind queue handle => .calling (.asked (.bind queue handle))
  | unbind queue => .calling (.asked (.unbind queue))

namespace Party

def change? (party : Party) : Option Change :=
  match party.request with
  | .register ring => party.stage.handle?.map (.registered · ring)
  | .unregister handle => if party.stage.hasRemoved then some (.unregistered handle) else none
  | .bind .. => none
  | .unbind _ => none

theorem change?_entered (request : Request) : (Party.mk request request.stage).change? = none := by
  cases request with
  | register ring => rfl
  | unregister handle => rfl
  | bind queue handle => rfl
  | unbind queue => rfl

theorem change?_revising (request : Request) (revision : Revision) :
    (Party.mk request (.revising revision)).change? = none := by
  cases request with
  | register ring => rfl
  | unregister handle => rfl
  | bind queue handle => rfl
  | unbind queue => rfl

/-- The call is at a point of its own request, and what it knows of the registry is true. -/
def Fits (d : DispatcherId) (moment : Moment β) (party : Party) : Prop :=
  match party.stage with
  | .revising revision =>
    revision.request = party.request ∧ revision.Prepared ∧ revision.Recent d moment ∧
      ∀ current, revision.current? = some current → current.number ≤ moment.number
  | .calling call => call.request = party.request ∧ call.isRevision = false
  | .done _ => True

theorem fits_entered (d : DispatcherId) (moment : Moment β) (request : Request) :
    (Party.mk request request.stage).Fits d moment := by
  cases request with
  | register ring => exact ⟨rfl, trivial, nofun, nofun⟩
  | unregister handle => exact ⟨rfl, trivial, nofun, nofun⟩
  | bind queue handle => exact ⟨rfl, rfl⟩
  | unbind queue => exact ⟨rfl, rfl⟩

theorem Fits.later {d : DispatcherId} {moment after : Moment β} {party : Party}
    (fits : party.Fits d moment) (newer : moment.number ≤ after.number)
    (kept : after.number = moment.number →
      (after.host.dispatcher d).registry = (moment.host.dispatcher d).registry) :
    party.Fits d after := by
  obtain ⟨request, stage⟩ := party
  cases stage with
  | revising revision =>
    obtain ⟨asks, prepared, recent, known⟩ := fits
    refine ⟨asks, prepared, ?_, ?_⟩
    · intro current works number
      have old := known current works
      have same : after.number = moment.number := by omega
      rw [kept same]
      exact recent current works (number.trans same)
    · intro current works
      exact Nat.le_trans (known current works) newer
  | calling call => exact fits
  | done outcome => trivial

end Party

namespace Host

variable {host : Host β} {d : DispatcherId} {call : Call}

theorem dispatchers_abandon (host : Host β) (queue : QueueId) (handle : SocketHandle)
    (progress : Progress) :
    (host.abandon queue handle progress).host.dispatchers = host.dispatchers := by
  unfold abandon
  split
  · rfl
  · rfl
  · rfl

theorem dispatchers_step (d : DispatcherId) (other : call.isRevision = false) :
    (host.step d call).host.dispatchers = host.dispatchers := by
  cases call with
  | asked request =>
    cases request with
    | register ring => cases other
    | unregister handle => cases other
    | bind queue handle => rfl
    | unbind queue =>
      simp only [step, unbind]
      split
      · rfl
      · rfl
  | publish queue handle =>
    simp only [step, publish]
    split
    · rfl
    · rfl
  | confirm queue handle previous =>
    simp only [step, confirm]
    split
    · rfl
    · rfl
  | retract queue handle => exact host.dispatchers_abandon queue handle _
  | scan handle ahead found =>
    cases ahead with
    | nil => rfl
    | cons queue ahead => rfl
  | sweep handle owed =>
    cases owed with
    | nil => rfl
    | cons queue owed => exact host.dispatchers_abandon queue handle _

theorem stage_step (d : DispatcherId) (moment : Moment β) (other : call.isRevision = false) :
    (Party.mk call.request (host.step d call).progress.stage).Fits d moment ∧
      (Party.mk call.request (host.step d call).progress.stage).change? =
        (Party.mk call.request (.calling call)).change? := by
  cases call with
  | asked request =>
    cases request with
    | register ring => cases other
    | unregister handle => cases other
    | bind queue handle =>
      refine ⟨?_, rfl⟩
      simp only [step, beginBind]
      split
      · exact ⟨rfl, rfl⟩
      · trivial
    | unbind queue =>
      refine ⟨?_, rfl⟩
      simp only [step, unbind]
      split
      · trivial
      · trivial
  | publish queue handle =>
    refine ⟨?_, rfl⟩
    simp only [step, publish]
    split
    · exact ⟨rfl, rfl⟩
    · trivial
  | confirm queue handle previous =>
    refine ⟨?_, rfl⟩
    simp only [step, confirm]
    split
    · trivial
    · exact ⟨rfl, rfl⟩
  | retract queue handle =>
    refine ⟨?_, rfl⟩
    simp only [step, progress_abandon]
    trivial
  | scan handle ahead found =>
    cases ahead with
    | nil => exact ⟨⟨rfl, rfl⟩, rfl⟩
    | cons queue ahead => exact ⟨⟨rfl, rfl⟩, rfl⟩
  | sweep handle owed =>
    cases owed with
    | nil => exact ⟨trivial, rfl⟩
    | cons queue owed =>
      simp only [step, progress_abandon]
      exact ⟨⟨rfl, rfl⟩, rfl⟩

end Host

/-- A host with the calls that came to one dispatcher, and the changes of its registry that were
published, each with the place of the call that made it. -/
structure Race (β : Type) where
  host : Host β
  number : Nat
  parties : List Party
  ledger : List (Nat × Change)
  deriving DecidableEq, Repr

inductive Move where
  | enter (request : Request)
  | advance (index : Nat)
  deriving DecidableEq, Repr

namespace Race

def start (host : Host β) (number : Nat) : Race β := ⟨host, number, [], []⟩

def moment (race : Race β) : Moment β := ⟨race.host, race.number⟩

def change? (race : Race β) (index : Nat) : Option Change :=
  race.parties[index]?.bind Party.change?

def changes (race : Race β) : List Change := race.ledger.map Prod.snd

def enter (race : Race β) (request : Request) : Race β :=
  { race with parties := race.parties ++ [⟨request, request.stage⟩] }

def goOn (race : Race β) (index : Nat) (host : Host β) (party : Party) : Race β :=
  { race with host := host, parties := race.parties.set index party }

def publish (race : Race β) (index : Nat) (host : Host β) (party : Party) : Race β where
  host := host
  number := race.number + 1
  parties := race.parties.set index party
  ledger := race.ledger ++ (party.change?.map (Prod.mk index)).toList

def advance (race : Race β) (d : DispatcherId) (index : Nat) : Race β :=
  match race.parties[index]? with
  | none => race
  | some ⟨request, .revising revision⟩ =>
    match revision.step d race.moment with
    | .goesOn host next => race.goOn index host ⟨request, .revising next⟩
    | .publishes step => race.publish index step.host ⟨request, step.progress.stage⟩
  | some ⟨request, .calling call⟩ =>
    let step := race.host.step d call
    race.goOn index step.host ⟨request, step.progress.stage⟩
  | some ⟨_, .done _⟩ => race

def move (race : Race β) (d : DispatcherId) : Move → Race β
  | .enter request => race.enter request
  | .advance index => race.advance d index

def run (race : Race β) (d : DispatcherId) (moves : List Move) : Race β :=
  moves.foldl (fun race move => race.move d move) race

structure Recorded (race : Race β) : Prop where
  made : ∀ index change, (index, change) ∈ race.ledger ↔ race.change? index = some change
  once : (race.ledger.map Prod.fst).Nodup

structure Sound (d : DispatcherId) (race : Race β) : Prop where
  ledgered : Ledgered d race.changes race.host
  recorded : race.Recorded
  fits : ∀ party ∈ race.parties, party.Fits d race.moment

variable {race : Race β} {d : DispatcherId} {index : Nat} {party after : Party} {host : Host β}

theorem Recorded.goOn (recorded : race.Recorded) (here : race.parties[index]? = some party)
    (same : after.change? = party.change?) : (race.goOn index host after).Recorded := by
  refine ⟨?_, recorded.once⟩
  intro place change
  have kept : (race.goOn index host after).change? place = race.change? place := by
    unfold Race.change? Race.goOn
    by_cases there : index = place
    · subst there
      have inside := (List.getElem?_eq_some_iff.mp here).1
      rw [List.getElem?_set_self inside, here]
      exact same
    · rw [List.getElem?_set_ne there]
  rw [kept]
  exact recorded.made place change

theorem Recorded.publish (recorded : race.Recorded) (here : race.parties[index]? = some party)
    (before : party.change? = none) : (race.publish index host after).Recorded := by
  have unmade (change : Change) : (index, change) ∉ race.ledger := by
    intro member
    have made := (recorded.made index change).mp member
    rw [Race.change?, here] at made
    exact nomatch before.symm.trans made
  have inside := (List.getElem?_eq_some_iff.mp here).1
  constructor
  · intro place change
    change (place, change) ∈ race.ledger ++ _ ↔
      (race.parties.set index after)[place]?.bind Party.change? = some change
    rw [List.mem_append]
    by_cases there : index = place
    · subst there
      rw [List.getElem?_set_self inside, or_iff_right (unmade change)]
      change _ ↔ after.change? = some change
      simp
    · rw [List.getElem?_set_ne there]
      have elsewhere : (place, change) ∉ (after.change?.map (Prod.mk index)).toList := by
        simp [there]
      rw [or_iff_left elsewhere]
      exact recorded.made place change
  · change ((race.ledger ++ _).map Prod.fst).Nodup
    rw [List.map_append, List.nodup_append]
    refine ⟨recorded.once, ?_, ?_⟩
    · cases after.change? with
      | none => exact List.nodup_nil
      | some change => exact List.nodup_singleton index
    · rintro place old other new rfl
      obtain ⟨⟨_, change⟩, member, rfl⟩ := List.mem_map.mp old
      cases added : after.change? with
      | none =>
        rw [added] at new
        cases new
      | some change =>
        rw [added] at new
        cases List.mem_singleton.mp new
        exact unmade _ member

theorem change?_enter (race : Race β) (request : Request) (place : Nat) :
    (race.enter request).change? place = race.change? place := by
  change (race.parties ++ [⟨request, request.stage⟩])[place]?.bind Party.change? =
    race.parties[place]?.bind Party.change?
  rcases Nat.lt_trichotomy place race.parties.length with inside | rfl | outside
  · rw [List.getElem?_append_left inside]
  · rw [List.getElem?_eq_none (Nat.le_refl _), List.getElem?_concat_length]
    exact Party.change?_entered request
  · have past : (race.parties ++ [Party.mk request request.stage]).length ≤ place := by
      rw [List.length_append]
      exact outside
    rw [List.getElem?_eq_none (Nat.le_of_lt outside), List.getElem?_eq_none past]

theorem Recorded.enter (recorded : race.Recorded) (request : Request) :
    (race.enter request).Recorded where
  made place change := by
    rw [change?_enter]
    exact recorded.made place change
  once := recorded.once

theorem changes_publish (race : Race β) (index : Nat) (host : Host β) (party : Party) :
    (race.publish index host party).changes = race.changes ++ party.change?.toList := by
  rw [changes, publish, List.map_append]
  cases party.change? with
  | none => rfl
  | some change => rfl

theorem Sound.enter (sound : race.Sound d) (request : Request) :
    (race.enter request).Sound d where
  ledgered := sound.ledgered
  recorded := sound.recorded.enter request
  fits party member := by
    rcases List.mem_append.mp member with old | new
    · exact sound.fits party old
    · rw [List.mem_singleton.mp new]
      exact Party.fits_entered d race.moment request

theorem Sound.goOn (sound : race.Sound d) (here : race.parties[index]? = some party)
    (same : after.change? = party.change?)
    (length : host.dispatchers.length = race.host.dispatchers.length)
    (registry : (host.dispatcher d).registry = (race.host.dispatcher d).registry)
    (fits : after.Fits d ⟨host, race.number⟩) : (race.goOn index host after).Sound d where
  ledgered := sound.ledgered.of_same length registry
  recorded := sound.recorded.goOn here same
  fits other member := by
    rcases List.mem_or_eq_of_mem_set member with old | rfl
    · exact (sound.fits other old).later (Nat.le_refl _) fun _ => registry
    · exact fits

theorem Sound.publish (sound : race.Sound d) (here : race.parties[index]? = some party)
    (before : party.change? = none)
    (ledgered : Ledgered d (race.changes ++ after.change?.toList) host)
    (fits : after.Fits d ⟨host, race.number + 1⟩) : (race.publish index host after).Sound d where
  ledgered := by
    rw [changes_publish]
    exact ledgered
  recorded := sound.recorded.publish here before
  fits other member := by
    rcases List.mem_or_eq_of_mem_set member with old | rfl
    · -- what the others have read is older now
      exact (sound.fits other old).later (Nat.le_succ _) fun same =>
        absurd same (Nat.succ_ne_self _)
    · exact fits

variable {request : Request} {revision : Revision}

theorem Sound.reviseOn (sound : race.Sound d) {next : Revision}
    (here : race.parties[index]? = some ⟨request, .revising revision⟩)
    (goes : revision.step d race.moment = .goesOn host next) :
    (race.goOn index host ⟨request, .revising next⟩).Sound d := by
  obtain ⟨asks, prepared, recent, known⟩ := sound.fits _ (List.mem_of_getElem? here)
  have went := Revision.goesOn_of_step goes
  have length : host.dispatchers.length = race.host.dispatchers.length := by
    rcases went.silent with rfl | ⟨-, rfl⟩
    · rfl
    · exact race.host.length_countId d
  have registry : (host.dispatcher d).registry = (race.host.dispatcher d).registry := by
    rcases went.silent with rfl | ⟨-, rfl⟩
    · rfl
    · change ((race.host.countId d).dispatcher d).registry = _
      rw [Host.dispatcher_countId sound.ledgered.inside]
  have same : (Party.mk request (.revising next)).change? =
      (Party.mk request (.revising revision)).change? := by
    rw [Party.change?_revising, Party.change?_revising]
  refine sound.goOn here same length registry
    ⟨went.request.trans asks, went.prepared, ?_, ?_⟩
  · intro current works number
    change current.registry = (host.dispatcher d).registry
    rw [registry]
    rcases went.current with kept | read
    · exact recent current (kept ▸ works) number
    · cases read.symm.trans works
      rfl
  · intro current works
    rcases went.current with kept | read
    · exact known current (kept ▸ works)
    · cases read.symm.trans works
      exact Nat.le_refl race.number

theorem Sound.revise (sound : race.Sound d) {step : Step β}
    (here : race.parties[index]? = some ⟨request, .revising revision⟩)
    (published : revision.step d race.moment = .publishes step) :
    (race.publish index step.host ⟨request, step.progress.stage⟩).Sound d := by
  obtain ⟨asks, prepared, recent, -⟩ := sound.fits _ (List.mem_of_getElem? here)
  have before := Party.change?_revising request revision
  rcases revision.request_cases with ⟨ring, asked⟩ | ⟨handle, asked⟩
  · obtain rfl : request = .register ring := asks.symm.trans asked
    obtain ⟨handle, free, rfl⟩ := Revision.register_publishes asks prepared recent published
    exact sound.publish here before (sound.ledgered.register free _ ring) trivial
  · obtain rfl : request = .unregister handle := asks.symm.trans asked
    obtain rfl := Revision.unregister_publishes asks prepared recent published
    change (race.publish index (race.host.beginUnregister d handle).host
      ⟨.unregister handle, (race.host.beginUnregister d handle).progress.stage⟩).Sound d
    cases seen : race.host.socket? d handle with
    | none =>
      rw [Host.beginUnregister_unknown seen]
      refine sound.publish here before ?_ trivial
      exact (List.append_nil race.changes).symm ▸ sound.ledgered
    | some ring =>
      rw [Host.beginUnregister_live seen]
      exact sound.publish here before (sound.ledgered.unregister seen) ⟨rfl, rfl⟩

theorem Sound.call (sound : race.Sound d) {call : Call}
    (here : race.parties[index]? = some ⟨request, .calling call⟩) :
    (race.goOn index (race.host.step d call).host
      ⟨request, (race.host.step d call).progress.stage⟩).Sound d := by
  obtain ⟨rfl, other⟩ := sound.fits _ (List.mem_of_getElem? here)
  have same := race.host.dispatchers_step d other
  obtain ⟨fits, kept⟩ := race.host.stage_step d ⟨(race.host.step d call).host, race.number⟩ other
  refine sound.goOn here kept (by rw [same]) ?_ fits
  rw [Host.dispatcher, same]
  rfl

theorem Sound.move (sound : race.Sound d) (move : Move) : (race.move d move).Sound d := by
  cases move with
  | enter request => exact sound.enter request
  | advance index =>
    change (race.advance d index).Sound d
    unfold Race.advance
    split
    next => exact sound
    next request revision here =>
      split
      next host following goes => exact sound.reviseOn here goes
      next step published => exact sound.revise here published
    next request call here => exact sound.call here
    next => exact sound

theorem Sound.start {host : Host β} (inside : d < host.dispatchers.length)
    (nobody : (host.dispatcher d).registry = .empty) (number : Nat) :
    (Race.start host number).Sound d where
  ledgered := .start inside nobody
  recorded := ⟨fun _ _ => ⟨nofun, nofun⟩, List.nodup_nil⟩
  fits := nofun

theorem Sound.run (sound : race.Sound d) (moves : List Move) : (race.run d moves).Sound d := by
  induction moves generalizing race with
  | nil => exact sound
  | cons move rest ih => exact ih (sound.move move)

end Race

namespace Host

variable (host : Host β) (d : DispatcherId) (handle : SocketHandle)

theorem progress_beginUnregister :
    (host.beginUnregister d handle).progress =
      if host.isRegistered d handle then .ongoing (.scan handle host.table.queues [])
      else .finished (.unregistered false) := by
  cases live : host.socket? d handle with
  | none =>
    rw [beginUnregister_unknown live, not_isRegistered_iff.mpr live]
    rfl
  | some ring =>
    rw [beginUnregister_live live, isRegistered_iff.mpr ⟨ring, live⟩]
    rfl

theorem socket?_beginUnregister (inside : d < host.dispatchers.length) (other : SocketHandle) :
    (host.beginUnregister d handle).host.socket? d other =
      if handle = other then none else host.socket? d other := by
  cases live : host.socket? d handle with
  | none =>
    rw [beginUnregister_unknown live]
    split
    next there =>
      rw [← there]
      exact live
    next => rfl
  | some ring =>
    rw [beginUnregister_live live]
    exact host.socket?_removeSocket ring inside other

end Host

/-- What an attempt to register does at this moment. One that fails leaves nothing behind but an id
taken from the counter; what is published is the registry of that moment with the one socket more. -/
structure Revision.Registers (revision : Revision) (d : DispatcherId) (ring : RingId)
    (moment : Moment β) : Prop where
  fails : ∀ host next, revision.step d moment = .goesOn host next →
    host = moment.host ∨ host = moment.host.countId d
  publishes : ∀ step, revision.step d moment = .publishes step → ∃ handle,
    moment.host.isRegistered d handle = false ∧
    step.progress = .finished (.registered handle) ∧
    step.host = moment.host.addSocket d handle (moment.host.dispatcher d).nextHandle ring ∧
    ∀ other, step.host.socket? d other =
      if handle = other then some ring else moment.host.socket? d other

/-- What an attempt to unregister does at this moment: nothing if it fails, and else just what the
call in a single step does. -/
structure Revision.Unregisters (revision : Revision) (d : DispatcherId) (handle : SocketHandle)
    (moment : Moment β) : Prop where
  fails : ∀ host next, revision.step d moment = .goesOn host next → host = moment.host
  publishes : ∀ step, revision.step d moment = .publishes step →
    step = moment.host.beginUnregister d handle
  /-- it answers whether the socket was there, and goes through the table just then -/
  answers : ∀ step, revision.step d moment = .publishes step →
    step.progress =
      if moment.host.isRegistered d handle then
        .ongoing (.scan handle moment.host.table.queues [])
      else .finished (.unregistered false)
  removes : ∀ step, revision.step d moment = .publishes step → ∀ other,
    step.host.socket? d other = if handle = other then none else moment.host.socket? d other

structure Race.Accounted (race : Race β) (d : DispatcherId) : Prop where
  recorded : race.Recorded
  leads : ∀ handle ring, race.host.socket? d handle = some ring ↔
    LeadsTo race.changes handle ring
  lasts : ∀ before handle ring after, race.changes = before ++ .registered handle ring :: after →
    .unregistered handle ∉ after → race.host.socket? d handle = some ring
  /-- no handle is given out while it is live -/
  apart : ∀ before handle ring between other after,
    race.changes =
      before ++ .registered handle ring :: (between ++ .registered handle other :: after) →
    .unregistered handle ∈ between
  enrolled : ∀ before handle after, race.changes = before ++ .unregistered handle :: after →
    IsEnrolled before handle
  /-- a registration is ended by one unregistration at most -/
  endsOnce : ∀ before handle between after,
    race.changes = before ++ .unregistered handle :: (between ++ .unregistered handle :: after) →
    ∃ ring, .registered handle ring ∈ between

open Revision

/-- What updates of one registry do that start anew whenever another comes between. The moments
before are those of the attempts that failed. -/
structure SurviveRetries (β : Type) (d : DispatcherId) : Prop where
  registers : ∀ (ring : RingId) (seen : List (Moment β)) (moment : Moment β) (revision : Revision),
    Numbered d (moment :: seen) → d < moment.host.dispatchers.length →
    (Revision.register ring).after d seen = some revision → revision.Registers d ring moment
  unregisters : ∀ (handle : SocketHandle) (seen : List (Moment β)) (moment : Moment β)
    (revision : Revision), Numbered d (moment :: seen) → d < moment.host.dispatchers.length →
    (Revision.unregister handle).after d seen = some revision →
    revision.Unregisters d handle moment
  /-- an attempt that nobody comes between does what the call in a single step does -/
  registersAlone : ∀ moment : Moment β, d < moment.host.dispatchers.length →
    (moment.host.dispatcher d).registry.size < UInt32.size → ∀ ring left,
      (seek ring left (moment.edition d)).Settles d moment (moment.host.register d ring)
  unregistersAlone : ∀ moment : Moment β, d < moment.host.dispatchers.length → ∀ handle,
    (retiring handle (moment.edition d)).Settles d moment (moment.host.beginUnregister d handle)
  races : ∀ (host : Host β) (number : Nat) (moves : List Move), d < host.dispatchers.length →
    (host.dispatcher d).registry = .empty → ((Race.start host number).run d moves).Accounted d

/-- However often an update starts anew and whatever the attempts that failed have met, what is
published in the end is the registry of that moment with the one change. So in any interleaving of
calls the live sockets are those that were registered and not unregistered since. -/
theorem registry_updates_survive_retries (d : DispatcherId) : SurviveRetries β d := by
  constructor
  case registers =>
    intro ring seen moment revision numbered inside met
    have start : (Revision.register ring).Prepared := trivial
    obtain ⟨prepared, asks, recent⟩ := recent_of_after numbered start rfl met
    constructor
    · intro host next goes
      exact (goesOn_of_step goes).silent.imp id And.right
    · intro step published
      obtain ⟨handle, free, rfl⟩ := register_publishes asks prepared recent published
      exact ⟨handle, Host.not_isRegistered_iff.mpr free, rfl, rfl,
        moment.host.socket?_addSocket handle _ ring inside⟩
  case unregisters =>
    intro handle seen moment revision numbered inside met
    have start : (Revision.unregister handle).Prepared := trivial
    obtain ⟨prepared, asks, recent⟩ := recent_of_after numbered start rfl met
    have publishes (step) (published : revision.step d moment = .publishes step) :
        step = moment.host.beginUnregister d handle :=
      unregister_publishes asks prepared recent published
    constructor
    case fails =>
      intro host next goes
      rcases (goesOn_of_step goes).silent with same | ⟨⟨ring, other⟩, -⟩
      · exact same
      · cases asks.symm.trans other
    case publishes => exact publishes
    case answers =>
      intro step published
      rw [publishes step published]
      exact moment.host.progress_beginUnregister d handle
    case removes =>
      intro step published other
      rw [publishes step published]
      exact moment.host.socket?_beginUnregister d handle inside other
  case registersAlone => exact fun moment inside => settles_register inside
  case unregistersAlone => exact fun moment inside => settles_unregister d moment
  case races =>
    intro host number moves inside nobody
    have sound := (Race.Sound.start inside nobody number).run moves
    have inOrder := sound.ledgered.inOrder
    constructor
    case recorded => exact sound.recorded
    case leads => exact sound.ledgered.leads
    case lasts =>
      intro before handle ring after split lasts
      exact (sound.ledgered.leads handle ring).mpr (inOrder.leadsTo split lasts)
    case apart => exact fun before handle ring between other after => inOrder.unregistered_between
    case enrolled => exact fun before handle after split => inOrder before _ after split
    case endsOnce => exact fun before handle between after => inOrder.registered_between

/-- Two registrations come at the same time, and so do two unregistrations of the first socket. The
one that loses starts anew each time. -/
def rivalry : List Move :=
  [.enter (.register 0), .enter (.register 1), .advance 0, .advance 1, .advance 0, .advance 1,
    .advance 0, .advance 1, .advance 1, .advance 1, .enter (.unregister ⟨0⟩),
    .enter (.unregister ⟨0⟩), .advance 2, .advance 3, .advance 2, .advance 3, .advance 3]

def vacantHost : Host Nat := Host.start .unbound [.drop]

def occupiedHost : Host Nat := vacantHost.addSocket 0 ⟨0⟩ 1 0

theorem registry_updates_survive_rivalry :
    let race := (Race.start vacantHost 0).run 0 rivalry
    let read : Edition := ⟨1, (occupiedHost.dispatcher 0).registry⟩
    let enrolling := enroll 1 ⟨1⟩ read (read.registry.insert ⟨1⟩ 1)
    race.ledger = [(0, .registered ⟨0⟩ 0), (1, .registered ⟨2⟩ 1), (2, .unregistered ⟨0⟩)] ∧
      race.change? 1 = some (.registered ⟨2⟩ 1) ∧ race.host.socket? 0 ⟨2⟩ = some 1 ∧
      (Revision.register 1).after 0
        [⟨vacantHost, 0⟩, ⟨vacantHost, 0⟩, ⟨occupiedHost, 1⟩, ⟨occupiedHost, 1⟩] =
          some enrolling ∧
      (∃ step, enrolling.step 0 ⟨occupiedHost, 1⟩ = .publishes step ∧
        step.host.socket? 0 ⟨0⟩ = some 0) ∧
      (Revision.unregister ⟨0⟩).after 0 [⟨vacantHost, 0⟩, ⟨occupiedHost, 1⟩] =
        some (retiring ⟨0⟩ read) ∧
      (∃ step, (retiring ⟨0⟩ read).step 0 ⟨occupiedHost, 1⟩ = .publishes step ∧
        step.host.socket? 0 ⟨0⟩ = none) ∧
      (retiring ⟨0⟩ read).Settles 0 ⟨occupiedHost, 1⟩ (occupiedHost.beginUnregister 0 ⟨0⟩) := by
  intro race read enrolling
  have law := registry_updates_survive_retries (β := Nat) 0
  have inside : 0 < occupiedHost.dispatchers.length := by decide
  have accounted : race.Accounted 0 := law.races vacantHost 0 rivalry (by decide) rfl
  have ledger : race.ledger =
      [(0, .registered ⟨0⟩ 0), (1, .registered ⟨2⟩ 1), (2, .unregistered ⟨0⟩)] := by
    decide +kernel
  have recorded : (1, Change.registered ⟨2⟩ 1) ∈ race.ledger := by
    rw [ledger]
    decide
  have changes : race.changes = [.registered ⟨0⟩ 0] ++ .registered ⟨2⟩ 1 :: [.unregistered ⟨0⟩] :=
    congrArg (List.map Prod.snd) ledger
  have enrolled : (Revision.register 1).after 0
      [⟨vacantHost, 0⟩, ⟨vacantHost, 0⟩, ⟨occupiedHost, 1⟩, ⟨occupiedHost, 1⟩] =
        some enrolling := by decide
  have retired : (Revision.unregister ⟨0⟩).after 0 [⟨vacantHost, 0⟩, ⟨occupiedHost, 1⟩] =
      some (retiring ⟨0⟩ read) := by decide
  have adds : enrolling.step 0 ⟨occupiedHost, 1⟩ = .publishes _ := enroll_current rfl 1 ⟨1⟩ _
  have removes : (retiring ⟨0⟩ read).step 0 ⟨occupiedHost, 1⟩ = .publishes _ :=
    retire_current rfl ⟨0⟩ _ _
  have registers := law.registers 1 _ ⟨occupiedHost, 1⟩ enrolling (by decide) inside enrolled
  obtain ⟨handle, free, -, -, after⟩ := registers.publishes _ adds
  have unregisters := law.unregisters ⟨0⟩ _ ⟨occupiedHost, 1⟩ _ (by decide) inside retired
  have apart : handle ≠ ⟨0⟩ := by
    rintro rfl
    revert free
    decide
  refine ⟨ledger, (accounted.recorded.made 1 _).mp recorded,
    accounted.lasts _ _ _ _ changes (by decide), enrolled, ⟨_, adds, ?_⟩, retired,
    ⟨_, removes, ?_⟩, law.unregistersAlone ⟨occupiedHost, 1⟩ inside ⟨0⟩⟩
  · rw [after, if_neg apart]
    decide
  · rw [unregisters.removes _ removes, if_pos rfl]

end RxSteering
