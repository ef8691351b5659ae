import RxSteering.Proofs.HandleSearch
import RxSteering.Proofs.Steps

/-!
One update of a dispatcher's sockets among other updates. It reads the registry that is current,
prepares a copy with its own change, and publishes the copy if what it read is still current. If not
it starts anew on the registry that it finds, with the counter and its variables as earlier attempts
left them. What it publishes in the end is the registry of that moment with its own change and no
other, and its answer is true of that registry, whatever the earlier attempts met.
-/
namespace RxSteering

variable {β : Type}

/-- A registry as it was published. The number tells two editions apart that hold the same. -/
structure Edition where
  number : Nat
  registry : Registry
  deriving DecidableEq, Repr

/-- A host with the number of the edition that is current on the dispatcher in question. -/
structure Moment (β : Type) where
  host : Host β
  number : Nat
  deriving DecidableEq, Repr

def Moment.edition (moment : Moment β) (d : DispatcherId) : Edition :=
  ⟨moment.number, (moment.host.dispatcher d).registry⟩

/-- An update at the point that it has reached. What an earlier attempt found stays in its variables
until a later one overwrites it. -/
inductive Revision where
  | register (ring : RingId)
  /-- takes ids from the counter until one is not live in the edition that it read -/
  | seek (ring : RingId) (handle : SocketHandle) (current : Edition)
  /-- publishes the copy next, if the edition that it read is still current -/
  | enroll (ring : RingId) (handle : SocketHandle) (current : Edition) (copy : Registry)
  | unregister (handle : SocketHandle)
  /-- publishes the copy next, if the edition that it read is still current -/
  | retire (handle : SocketHandle) (removed : Bool) (current : Edition) (copy : Registry)
  deriving DecidableEq, Repr

inductive Attempt (β : Type) where
  | goesOn (host : Host β) (revision : Revision)
  | publishes (step : Step β)

namespace Host

variable {d : DispatcherId} {handle : SocketHandle} {ring : RingId}

def withRegistry (host : Host β) (d : DispatcherId) (registry : Registry) : Host β :=
  host.modifyDispatcher d fun dispatcher => { dispatcher with registry := registry }

/-- The producer that an edition holds for a handle goes with that edition. -/
def releaseSocket (host : Host β) : Option RingId → Host β
  | none => host
  | some ring => host.modifyRing ring Ring.dropProducer

def countId (host : Host β) (d : DispatcherId) : Host β :=
  host.setNextHandle d ((host.dispatcher d).nextHandle + 1)

theorem modifyDispatcher_congr (host : Host β) {one other : Dispatcher → Dispatcher}
    (same : one (host.dispatcher d) = other (host.dispatcher d)) :
    host.modifyDispatcher d one = host.modifyDispatcher d other := by
  have lists : host.dispatchers.modify d one = host.dispatchers.modify d other := by
    apply List.ext_getElem?
    intro e
    rw [List.getElem?_modify, List.getElem?_modify]
    cases here : host.dispatchers[e]? with
    | none => rfl
    | some dispatcher =>
      by_cases there : d = e
      · subst there
        have found : host.dispatcher d = dispatcher := by
          rw [Host.dispatcher, List.getD_eq_getElem?_getD, here, Option.getD_some]
        rw [found] at same
        simp [same]
      · simp [there]
  rw [modifyDispatcher, modifyDispatcher, lists]

theorem modifyDispatcher_self (host : Host β) {change : Dispatcher → Dispatcher}
    (same : change (host.dispatcher d) = host.dispatcher d) :
    host.modifyDispatcher d change = host := by
  have asId : host.modifyDispatcher d change = host.modifyDispatcher d id :=
    host.modifyDispatcher_congr same
  rw [asId, modifyDispatcher, List.modify_id]

theorem withRegistry_insert (host : Host β) (d : DispatcherId) (handle : SocketHandle)
    (ring : RingId) :
    (host.withRegistry d ((host.dispatcher d).registry.insert handle ring)).modifyRing ring
        Ring.addProducer =
      host.addSocket d handle (host.dispatcher d).nextHandle ring :=
  congrArg (modifyRing · ring Ring.addProducer) (host.modifyDispatcher_congr rfl)

theorem withRegistry_erase (host : Host β) (leads : host.socket? d handle = some ring) :
    (host.withRegistry d ((host.dispatcher d).registry.erase handle)).releaseSocket
        ((host.dispatcher d).registry.ring? handle) =
      host.removeSocket d handle ring := by
  have found : (host.dispatcher d).registry.ring? handle = some ring := leads
  rw [found]
  exact congrArg (modifyRing · ring Ring.dropProducer) (host.modifyDispatcher_congr rfl)

theorem dispatcher_countId {host : Host β} (inside : d < host.dispatchers.length) :
    (host.countId d).dispatcher d =
      { host.dispatcher d with nextHandle := (host.dispatcher d).nextHandle + 1 } := by
  rw [countId, setNextHandle, dispatcher_modifyDispatcher, if_pos ⟨rfl, inside⟩]

theorem length_countId (host : Host β) (d : DispatcherId) :
    (host.countId d).dispatchers.length = host.dispatchers.length :=
  List.length_modify ..

theorem addSocket_countId (host : Host β) (d : DispatcherId) (handle : SocketHandle)
    (next : UInt32) (ring : RingId) :
    (host.countId d).addSocket d handle next ring = host.addSocket d handle next ring := by
  simp only [addSocket, countId, setNextHandle, modifyDispatcher, modifyRing,
    List.modify_modify_eq, Function.comp_def]

end Host

namespace Registry

theorem erase_unknown {registry : Registry} {handle : SocketHandle}
    (unknown : registry.ring? handle = none) : registry.erase handle = registry := by
  have absent : ∀ entry ∈ registry.entries, entry.1 ≠ handle := by
    simpa [ring?] using unknown
  have kept : registry.entries.filter (fun entry => entry.1 ≠ handle) = registry.entries :=
    List.filter_eq_self.mpr fun entry member => decide_eq_true (absent entry member)
  cases registry
  simpa [erase] using kept

end Registry

namespace Revision

/-- Reads the edition and prepares the copy in one go: nothing in between is shared. -/
def retiring (handle : SocketHandle) (current : Edition) : Revision :=
  .retire handle (current.registry.isLive handle) current (current.registry.erase handle)

def step (d : DispatcherId) (moment : Moment β) : Revision → Attempt β
  | .register ring => .goesOn moment.host (.seek ring ⟨0⟩ (moment.edition d))
  | .seek ring handle current =>
    let candidate : SocketHandle := ⟨(moment.host.dispatcher d).nextHandle⟩
    .goesOn (moment.host.countId d)
      (if current.registry.isLive candidate then .seek ring handle current
        else .enroll ring candidate current (current.registry.insert candidate ring))
  | .enroll ring handle current copy =>
    if current.number = moment.number then
      .publishes
        { host := (moment.host.withRegistry d copy).modifyRing ring Ring.addProducer
          record := some (.registered handle)
          progress := .finished (.registered handle) }
    else .goesOn moment.host (.seek ring handle (moment.edition d))
  | .unregister handle => .goesOn moment.host (retiring handle (moment.edition d))
  | .retire handle removed current copy =>
    if current.number = moment.number then
      .publishes
        { host := (moment.host.withRegistry d copy).releaseSocket (current.registry.ring? handle)
          progress := if removed then .ongoing (.scan handle moment.host.table.queues [])
            else .finished (.unregistered false) }
    else .goesOn moment.host (retiring handle (moment.edition d))

def after (d : DispatcherId) (revision : Revision) : List (Moment β) → Option Revision
  | [] => some revision
  | moment :: rest =>
    match revision.step d moment with
    | .goesOn _ next => next.after d rest
    | .publishes _ => none

inductive Settles (d : DispatcherId) : Moment β → Revision → Step β → Prop where
  | publishes {moment : Moment β} {revision : Revision} {step : Step β}
      (published : revision.step d moment = .publishes step) : Settles d moment revision step
  | goesOn {moment : Moment β} {revision next : Revision} {host : Host β} {step : Step β}
      (goes : revision.step d moment = .goesOn host next)
      (later : Settles d ⟨host, moment.number⟩ next step) : Settles d moment revision step

def request : Revision → Request
  | .register ring => .register ring
  | .seek ring .. => .register ring
  | .enroll ring .. => .register ring
  | .unregister handle => .unregister handle
  | .retire handle .. => .unregister handle

def current? : Revision → Option Edition
  | .register _ => none
  | .seek _ _ current => some current
  | .enroll _ _ current _ => some current
  | .unregister _ => none
  | .retire _ _ current _ => some current

/-- The copy is what was read with the change, and the answer is true of what was read. -/
def Prepared : Revision → Prop
  | .enroll ring handle current copy =>
    current.registry.isLive handle = false ∧ copy = current.registry.insert handle ring
  | .retire handle removed current copy =>
    removed = current.registry.isLive handle ∧ copy = current.registry.erase handle
  | _ => True

variable {d : DispatcherId} {moment : Moment β} {revision next : Revision} {host : Host β}
  {step : Step β}

theorem enroll_current {current : Edition} (number : current.number = moment.number)
    (ring : RingId) (handle : SocketHandle) (copy : Registry) :
    (enroll ring handle current copy).step d moment = .publishes
      { host := (moment.host.withRegistry d copy).modifyRing ring Ring.addProducer
        record := some (.registered handle)
        progress := .finished (.registered handle) } :=
  if_pos number

theorem enroll_stale {current : Edition} (number : current.number ≠ moment.number)
    (ring : RingId) (handle : SocketHandle) (copy : Registry) :
    (enroll ring handle current copy).step d moment =
      .goesOn moment.host (.seek ring handle (moment.edition d)) :=
  if_neg number

theorem retire_current {current : Edition} (number : current.number = moment.number)
    (handle : SocketHandle) (removed : Bool) (copy : Registry) :
    (retire handle removed current copy).step d moment = .publishes
      { host := (moment.host.withRegistry d copy).releaseSocket (current.registry.ring? handle)
        progress := if removed then .ongoing (.scan handle moment.host.table.queues [])
          else .finished (.unregistered false) } :=
  if_pos number

theorem retire_stale {current : Edition} (number : current.number ≠ moment.number)
    (handle : SocketHandle) (removed : Bool) (copy : Registry) :
    (retire handle removed current copy).step d moment =
      .goesOn moment.host (retiring handle (moment.edition d)) :=
  if_neg number

structure GoesOn (d : DispatcherId) (moment : Moment β) (revision : Revision) (host : Host β)
    (next : Revision) : Prop where
  prepared : next.Prepared
  request : next.request = revision.request
  current : next.current? = revision.current? ∨ next.current? = some (moment.edition d)
  silent : host = moment.host ∨
    (∃ ring, revision.request = .register ring) ∧ host = moment.host.countId d

theorem prepared_retiring (handle : SocketHandle) (current : Edition) :
    (retiring handle current).Prepared := ⟨rfl, rfl⟩

/-- An attempt that starts anew prepares its copy anew, so no earlier attempt is left in it. -/
theorem goesOn_of_step (goes : revision.step d moment = .goesOn host next) :
    GoesOn d moment revision host next := by
  cases revision with
  | register ring =>
    cases goes
    exact ⟨trivial, rfl, .inr rfl, .inl rfl⟩
  | seek ring handle current =>
    cases goes
    have silent : moment.host.countId d = moment.host ∨
        (∃ other, Request.register ring = .register other) ∧
          moment.host.countId d = moment.host.countId d := .inr ⟨⟨ring, rfl⟩, rfl⟩
    split
    next => exact ⟨trivial, rfl, .inl rfl, silent⟩
    next free => exact ⟨⟨Bool.eq_false_iff.mpr free, rfl⟩, rfl, .inl rfl, silent⟩
  | enroll ring handle current copy =>
    by_cases number : current.number = moment.number
    · rw [enroll_current number] at goes
      cases goes
    · rw [enroll_stale number] at goes
      cases goes
      exact ⟨trivial, rfl, .inr rfl, .inl rfl⟩
  | unregister handle =>
    cases goes
    exact ⟨prepared_retiring handle _, rfl, .inr rfl, .inl rfl⟩
  | retire handle removed current copy =>
    by_cases number : current.number = moment.number
    · rw [retire_current number] at goes
      cases goes
    · rw [retire_stale number] at goes
      cases goes
      exact ⟨prepared_retiring handle _, rfl, .inr rfl, .inl rfl⟩

theorem after_spec {seen : List (Moment β)} (prepared : revision.Prepared)
    (met : revision.after d seen = some next) :
    next.Prepared ∧ next.request = revision.request ∧
      ∀ current, next.current? = some current →
        revision.current? = some current ∨ ∃ moment ∈ seen, current = moment.edition d := by
  induction seen generalizing revision with
  | nil =>
    cases met
    exact ⟨prepared, rfl, fun current works => .inl works⟩
  | cons moment rest ih =>
    unfold after at met
    split at met
    next host following goes =>
      have went := goesOn_of_step goes
      obtain ⟨ready, same, works⟩ := ih went.prepared met
      refine ⟨ready, same.trans went.request, ?_⟩
      intro current now
      rcases works current now with held | ⟨other, member, read⟩
      · rcases went.current with kept | read
        · exact .inl (kept ▸ held)
        · rw [read] at held
          exact .inr ⟨moment, List.mem_cons_self, (Option.some.inj held).symm⟩
      · exact .inr ⟨other, List.mem_cons_of_mem moment member, read⟩
    next => cases met

/-- No other registry has been published since the attempt read, if its number is current. -/
def Recent (d : DispatcherId) (moment : Moment β) (revision : Revision) : Prop :=
  ∀ current, revision.current? = some current → current.number = moment.number →
    current.registry = (moment.host.dispatcher d).registry

/-- Where two moments have the same number, nothing was published between them. -/
def Numbered (d : DispatcherId) (moments : List (Moment β)) : Prop :=
  ∀ first ∈ moments, ∀ second ∈ moments, first.number = second.number →
    (first.host.dispatcher d).registry = (second.host.dispatcher d).registry

instance (d : DispatcherId) (moments : List (Moment β)) : Decidable (Numbered d moments) :=
  inferInstanceAs (Decidable (∀ first ∈ moments, ∀ second ∈ moments,
    first.number = second.number →
      (first.host.dispatcher d).registry = (second.host.dispatcher d).registry))

theorem recent_of_after {seen : List (Moment β)} (numbered : Numbered d (moment :: seen))
    (prepared : revision.Prepared) (fresh : revision.current? = none)
    (met : revision.after d seen = some next) :
    next.Prepared ∧ next.request = revision.request ∧ next.Recent d moment := by
  obtain ⟨ready, same, works⟩ := after_spec prepared met
  refine ⟨ready, same, ?_⟩
  intro current now number
  rcases works current now with held | ⟨other, member, rfl⟩
  · rw [fresh] at held
    cases held
  · exact numbered other (List.mem_cons_of_mem moment member) moment List.mem_cons_self number

theorem request_cases (revision : Revision) :
    (∃ ring, revision.request = .register ring) ∨
      ∃ handle, revision.request = .unregister handle := by
  cases revision with
  | register ring => exact .inl ⟨ring, rfl⟩
  | seek ring handle current => exact .inl ⟨ring, rfl⟩
  | enroll ring handle current copy => exact .inl ⟨ring, rfl⟩
  | unregister handle => exact .inr ⟨handle, rfl⟩
  | retire handle removed current copy => exact .inr ⟨handle, rfl⟩

theorem register_publishes {ring : RingId} (asks : revision.request = .register ring)
    (prepared : revision.Prepared) (recent : revision.Recent d moment)
    (published : revision.step d moment = .publishes step) :
    ∃ handle, moment.host.socket? d handle = none ∧
      step =
        { host := moment.host.addSocket d handle (moment.host.dispatcher d).nextHandle ring
          record := some (.registered handle)
          progress := .finished (.registered handle) } := by
  cases revision with
  | register ring => cases published
  | seek ring handle current => cases published
  | enroll ring handle current copy =>
    cases asks
    obtain ⟨free, rfl⟩ := prepared
    by_cases number : current.number = moment.number
    · rw [enroll_current number] at published
      cases published
      rw [recent current rfl number] at free ⊢
      refine ⟨handle, Host.not_isRegistered_iff.mp free, ?_⟩
      rw [Host.withRegistry_insert]
    · rw [enroll_stale number] at published
      cases published
  | unregister handle => cases asks
  | retire handle removed current copy => cases asks

theorem unregister_publishes {handle : SocketHandle}
    (asks : revision.request = .unregister handle) (prepared : revision.Prepared)
    (recent : revision.Recent d moment)
    (published : revision.step d moment = .publishes step) :
    step = moment.host.beginUnregister d handle := by
  cases revision with
  | register ring => cases asks
  | seek ring handle current => cases asks
  | enroll ring handle current copy => cases asks
  | unregister handle => cases published
  | retire handle removed current copy =>
    cases asks
    obtain ⟨rfl, rfl⟩ := prepared
    by_cases number : current.number = moment.number
    · rw [retire_current number] at published
      cases published
      rw [recent current rfl number]
      cases seen : moment.host.socket? d handle with
      | none =>
        have absent : (moment.host.dispatcher d).registry.ring? handle = none := seen
        rw [Host.beginUnregister_unknown seen, Registry.erase_unknown absent, absent,
          Registry.isLive, absent]
        have same : moment.host.withRegistry d (moment.host.dispatcher d).registry = moment.host :=
          moment.host.modifyDispatcher_self rfl
        rw [same]
        rfl
      | some ring =>
        have live : (moment.host.dispatcher d).registry.isLive handle = true :=
          Host.isRegistered_iff.mpr ⟨ring, seen⟩
        rw [Host.beginUnregister_live seen, moment.host.withRegistry_erase seen, live]
        rfl
    · rw [retire_stale number] at published
      cases published

theorem settles_of_search {registry : Registry} {counter next : UInt32} {taken : Nat}
    {handle : SocketHandle} (search : registry.Search counter taken handle next)
    (inside : d < moment.host.dispatchers.length)
    (holds : (moment.host.dispatcher d).registry = registry)
    (starts : (moment.host.dispatcher d).nextHandle = counter) (ring : RingId)
    (left : SocketHandle) :
    (seek ring left (moment.edition d)).Settles d moment
      { host := moment.host.addSocket d handle next ring
        record := some (.registered handle)
        progress := .finished (.registered handle) } := by
  induction search generalizing moment with
  | @found counter free =>
    subst starts
    have counted := Host.dispatcher_countId inside
    have goes : (seek ring left (moment.edition d)).step d moment =
        .goesOn (moment.host.countId d)
          (.enroll ring ⟨(moment.host.dispatcher d).nextHandle⟩ (moment.edition d)
            ((moment.host.dispatcher d).registry.insert
              ⟨(moment.host.dispatcher d).nextHandle⟩ ring)) := by
      rw [← holds] at free
      exact congrArg (Attempt.goesOn _) (if_neg (Bool.eq_false_iff.mp free))
    refine .goesOn goes (.publishes ?_)
    rw [enroll_current rfl]
    have added := (moment.host.countId d).withRegistry_insert d
      ⟨(moment.host.dispatcher d).nextHandle⟩ ring
    rw [Host.addSocket_countId, counted] at added
    rw [added]
  | @passes counter next taken handle live later ih =>
    subst starts
    have counted := Host.dispatcher_countId inside
    have goes : (seek ring left (moment.edition d)).step d moment =
        .goesOn (moment.host.countId d) (.seek ring left (moment.edition d)) := by
      rw [← holds] at live
      exact congrArg (Attempt.goesOn _) (if_pos live)
    refine .goesOn goes ?_
    let after : Moment β := ⟨moment.host.countId d, moment.number⟩
    have same : after.edition d = moment.edition d := by
      rw [Moment.edition, Moment.edition, counted]
    have afterInside : d < after.host.dispatchers.length := by rwa [Host.length_countId]
    have afterHolds : (after.host.dispatcher d).registry = registry := by rw [counted, holds]
    have afterStarts : (after.host.dispatcher d).nextHandle =
        (moment.host.dispatcher d).nextHandle + 1 := by rw [counted]
    have settles := ih afterInside afterHolds afterStarts
    rwa [same, Host.addSocket_countId] at settles

/-- However many attempts have failed before, one that nobody comes between does what a registration
in a single step does. -/
theorem settles_register (inside : d < moment.host.dispatchers.length)
    (free : (moment.host.dispatcher d).registry.size < UInt32.size) (ring : RingId)
    (left : SocketHandle) :
    (seek ring left (moment.edition d)).Settles d moment (moment.host.register d ring) := by
  obtain ⟨handle, next, found⟩ := Registry.exists_fresh free (moment.host.dispatcher d).nextHandle
  obtain ⟨taken, search⟩ := Registry.fresh?_eq_some_iff.mp found
  rw [Host.register_found found]
  exact settles_of_search search inside rfl rfl ring left

theorem settles_unregister (d : DispatcherId) (moment : Moment β) (handle : SocketHandle) :
    (retiring handle (moment.edition d)).Settles d moment (moment.host.beginUnregister d handle) := by
  have recent : (retiring handle (moment.edition d)).Recent d moment := by
    intro current works _
    cases works
    rfl
  have published : (retiring handle (moment.edition d)).step d moment = .publishes _ :=
    retire_current rfl handle _ _
  have same := unregister_publishes rfl (prepared_retiring handle _) recent published
  rw [← same]
  exact .publishes published

end Revision
end RxSteering
