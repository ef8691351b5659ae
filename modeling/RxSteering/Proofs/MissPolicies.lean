import RxSteering.Proofs.Counting

/-!
One run under two policies. Where one dispatcher drops the frames of unmapped queues, another that
lets them through does everything else the same: what the two hosts hold stays equal but for the
policy and the account of such frames, and the answers differ by nothing else.
-/
namespace RxSteering

variable {β : Type}

/-- The same answer from a dispatcher that lets through what this one drops for want of a socket. -/
def Disposition.lettingThrough (payload : β) : Disposition β → Disposition β
  | dropped .unmappedQueue => .passed payload
  | other => other

def Counters.lettingThrough (counters : Counters) : Counters :=
  { counters with droppedUnmapped := 0, passed := counters.droppedUnmapped }

def Dispatcher.lettingThrough (dispatcher : Dispatcher) : Dispatcher :=
  { dispatcher with miss := .pass, counters := dispatcher.counters.lettingThrough }

/-- A change of a dispatcher that has nothing to do with its sockets. -/
structure Dispatcher.Aside (change : Dispatcher → Dispatcher) : Prop where
  known : ∀ dispatcher, (change dispatcher).registry = dispatcher.registry ∧
    (change dispatcher).nextHandle = dispatcher.nextHandle
  apart : ∀ dispatcher registry next,
    change { dispatcher with registry := registry, nextHandle := next } =
      { change dispatcher with registry := registry, nextHandle := next }

theorem Dispatcher.aside_lettingThrough : Dispatcher.Aside Dispatcher.lettingThrough where
  known _ := ⟨rfl, rfl⟩
  apart _ _ _ := rfl

theorem Counters.countOutcome_lettingThrough (counters : Counters) {disposition : Disposition β}
    (kept : disposition.tally ≠ .passed) (payload : β) :
    counters.lettingThrough.countOutcome (disposition.lettingThrough payload) =
      (counters.countOutcome disposition).lettingThrough := by
  cases disposition with
  | redirected handle => rfl
  | dropped reason =>
    cases reason with
    | unmappedQueue => rfl
    | targetUnavailable => rfl
  | passed other => exact absurd rfl kept

def Step.map (view : Host β → Host β) (step : Step β) : Step β :=
  { step with host := view step.host }

namespace Host

theorem resume_map {view : Host β → Host β} {d : DispatcherId}
    (steps : ∀ host call, (view host).step d call = (host.step d call).map view)
    (host : Host β) (call : Call) :
    resume d call (view host, ()) [] =
      let completion := resume d call (host, ()) []
      ⟨completion.outcome, completion.records, (view completion.state.1, ())⟩ := by
  rcases stepped : host.step d call with ⟨after, record, progress⟩
  have seen := steps host call
  rw [stepped] at seen
  cases progress with
  | finished outcome =>
    rw [resume_of_finished stepped, resume_of_finished seen]
    rfl
  | ongoing next =>
    rw [resume_of_goes stepped, resume_of_goes seen]
    simp only [interrupt_nil]
    rw [resume_map steps after next]
termination_by call.budget
decreasing_by exact host.budget_step d call next (congrArg Step.progress stepped)

theorem request_map {view : Host β → Host β} {d : DispatcherId}
    (steps : ∀ host call, (view host).step d call = (host.step d call).map view)
    (host : Host β) (request : Request) :
    (view host).request d request =
      ((host.request d request).1, (host.request d request).2.1,
        view (host.request d request).2.2) := by
  rw [Host.request, resume_map steps]
  rfl

section aside

variable {change : Dispatcher → Dispatcher} (aside : Dispatcher.Aside change) (host : Host β)
  (d e : DispatcherId)

theorem modifyDispatcher_exchange {one other : Dispatcher → Dispatcher}
    (comm : ∀ dispatcher, other (one dispatcher) = one (other dispatcher)) :
    (host.modifyDispatcher d one).modifyDispatcher e other =
      (host.modifyDispatcher e other).modifyDispatcher d one := by
  by_cases same : d = e
  · subst same
    exact host.modifyDispatcher_comm d comm
  · simp only [modifyDispatcher, List.modify_modify_ne one other host.dispatchers same]

include aside

theorem socket?_aside (handle : SocketHandle) :
    (host.modifyDispatcher d change).socket? e handle = host.socket? e handle :=
  socket?_of_sockets (host.sockets_modifyDispatcher d change aside.known) e handle

theorem isRegistered_aside (handle : SocketHandle) :
    (host.modifyDispatcher d change).isRegistered e handle = host.isRegistered e handle :=
  congrArg Option.isSome (host.socket?_aside aside d e handle)

theorem addSocket_aside (handle : SocketHandle) (next : UInt32) (ring : RingId) :
    (host.modifyDispatcher d change).addSocket e handle next ring =
      (host.addSocket e handle next ring).modifyDispatcher d change := by
  have comm (dispatcher : Dispatcher) :
      { change dispatcher with
        registry := (change dispatcher).registry.insert handle ring, nextHandle := next } =
      change { dispatcher with
        registry := dispatcher.registry.insert handle ring, nextHandle := next } := by
    have apart := aside.apart dispatcher (dispatcher.registry.insert handle ring) next
    rw [apart, (aside.known dispatcher).1]
  rw [addSocket, host.modifyDispatcher_exchange d e comm]
  rfl

theorem removeSocket_aside (handle : SocketHandle) (ring : RingId) :
    (host.modifyDispatcher d change).removeSocket e handle ring =
      (host.removeSocket e handle ring).modifyDispatcher d change := by
  have comm (dispatcher : Dispatcher) :
      { change dispatcher with registry := (change dispatcher).registry.erase handle } =
      change { dispatcher with registry := dispatcher.registry.erase handle } := by
    have apart := aside.apart dispatcher (dispatcher.registry.erase handle) dispatcher.nextHandle
    rw [apart, (aside.known dispatcher).1, ← (aside.known dispatcher).2]
  rw [removeSocket, host.modifyDispatcher_exchange d e comm]
  rfl

omit aside in
theorem abandon_modifyDispatcher (queue : QueueId) (handle : SocketHandle) (progress : Progress) :
    (host.modifyDispatcher d change).abandon queue handle progress =
      (host.abandon queue handle progress).map (·.modifyDispatcher d change) := by
  have table : (host.modifyDispatcher d change).table = host.table := rfl
  rw [abandon, abandon, table]
  split
  · rfl
  · rfl
  · rfl

theorem step_aside (call : Call) :
    (host.modifyDispatcher d change).step e call =
      (host.step e call).map (·.modifyDispatcher d change) := by
  have table : (host.modifyDispatcher d change).table = host.table := rfl
  have known := registry_of_sockets (host.sockets_modifyDispatcher d change aside.known) e
  cases call with
  | asked request =>
    cases request with
    | register ring =>
      simp only [step, register, known]
      cases (host.dispatcher e).registry.fresh? (host.dispatcher e).nextHandle with
      | none => rfl
      | some pair =>
        simp only [host.addSocket_aside aside]
        rfl
    | unregister handle =>
      simp only [step, beginUnregister, known]
      cases (host.dispatcher e).registry.ring? handle with
      | none => rfl
      | some ring =>
        simp only [host.removeSocket_aside aside]
        rfl
    | bind queue handle =>
      simp only [step, beginBind, host.isRegistered_aside aside]
      rfl
    | unbind queue =>
      simp only [step, unbind, table]
      cases host.table.delete queue with
      | ok pair => rfl
      | error error => rfl
  | publish queue handle =>
    simp only [step, publish, table]
    cases host.table.update queue handle with
    | ok pair => rfl
    | error error => rfl
  | confirm queue handle previous =>
    simp only [step, confirm, host.isRegistered_aside aside]
    cases host.isRegistered e handle with
    | true => rfl
    | false => rfl
  | retract queue handle => exact host.abandon_modifyDispatcher d queue handle _
  | scan handle ahead found =>
    cases ahead with
    | nil => rfl
    | cons queue ahead => rfl
  | sweep handle owed =>
    cases owed with
    | nil => rfl
    | cons queue owed => exact host.abandon_modifyDispatcher d queue handle _

theorem request_aside (request : Request) :
    (host.modifyDispatcher d change).request e request =
      ((host.request e request).1, (host.request e request).2.1,
        (host.request e request).2.2.modifyDispatcher d change) :=
  request_map (fun host call => host.step_aside aside d e call) host request

theorem taker?_aside (queue : QueueId) :
    (host.modifyDispatcher d change).taker? e queue = host.taker? e queue := by
  have leads : (host.modifyDispatcher d change).socket? e = host.socket? e :=
    funext (host.socket?_aside aside d e)
  rw [taker?, target?, leads]
  rfl

end aside

theorem take_modifyDispatcher (host : Host β) (d : DispatcherId) (change : Dispatcher → Dispatcher)
    (taker : Option RingId) (payload : β) :
    (host.modifyDispatcher d change).take taker payload =
      (host.take taker payload).modifyDispatcher d change := by
  cases taker with
  | none => rfl
  | some id => rfl

def lettingThrough (host : Host β) (d : DispatcherId) : Host β :=
  host.modifyDispatcher d Dispatcher.lettingThrough

variable {host : Host β} {d e : DispatcherId}

theorem dispatcher_lettingThrough (inside : d < host.dispatchers.length) :
    (host.lettingThrough d).dispatcher d = (host.dispatcher d).lettingThrough := by
  rw [lettingThrough, dispatcher_modifyDispatcher, if_pos ⟨rfl, inside⟩]

theorem dispatcher_lettingThrough_other (host : Host β) (other : d ≠ e) :
    (host.lettingThrough d).dispatcher e = host.dispatcher e := by
  rw [lettingThrough, dispatcher_modifyDispatcher, if_neg fun both => other both.1]

theorem verdict_of_drop (drops : (host.dispatcher d).miss = .drop) (frame : Frame β) :
    (host.verdict d frame).tally ≠ .passed := by
  have never := host.verdict_never d frame
  rwa [drops] at never

theorem verdict_lettingThrough (inside : d < host.dispatchers.length)
    (drops : (host.dispatcher d).miss = .drop) (frame : Frame β) :
    (host.lettingThrough d).verdict d frame =
      (host.verdict d frame).lettingThrough frame.payload := by
  have taker : (host.lettingThrough d).taker? d frame.queue = host.taker? d frame.queue :=
    host.taker?_aside Dispatcher.aside_lettingThrough d d frame.queue
  have table : (host.lettingThrough d).table = host.table := rfl
  cases bound : host.table.lookup frame.queue with
  | none =>
    rw [verdict_of_unbound bound, verdict_of_unbound (table ▸ bound), drops,
      dispatcher_lettingThrough inside]
    rfl
  | some handle =>
    rw [verdict_of_bound bound, verdict_of_bound (table ▸ bound), taker]
    split
    · rfl
    · rfl

theorem verdict_lettingThrough_other (host : Host β) (other : d ≠ e) (frame : Frame β) :
    (host.lettingThrough d).verdict e frame = host.verdict e frame := by
  have taker : (host.lettingThrough d).taker? e frame.queue = host.taker? e frame.queue :=
    host.taker?_aside Dispatcher.aside_lettingThrough d e frame.queue
  have table : (host.lettingThrough d).table = host.table := rfl
  rw [verdict, verdict, taker, table, host.dispatcher_lettingThrough_other other]

theorem countAs_lettingThrough (host : Host β) (d : DispatcherId) {disposition : Disposition β}
    (kept : disposition.tally ≠ .passed) (payload : β) :
    (host.lettingThrough d).countAs d (disposition.lettingThrough payload) =
      (host.countAs d disposition).lettingThrough d := by
  simp only [countAs, countFrame, countOutcome, lettingThrough, modifyDispatcher,
    List.modify_modify_eq]
  congr 2
  funext dispatcher
  exact congrArg (fun counters => ({ dispatcher with miss := .pass, counters := counters }))
    (dispatcher.counters.countFrame.countOutcome_lettingThrough kept payload)

theorem dispatch_lettingThrough (inside : d < host.dispatchers.length)
    (drops : (host.dispatcher d).miss = .drop) (frame : Frame β) :
    (host.lettingThrough d).dispatch d frame =
      ((host.dispatch d frame).1.lettingThrough frame.payload,
        (host.dispatch d frame).2.lettingThrough d) := by
  have taker : (host.lettingThrough d).taker? d frame.queue = host.taker? d frame.queue :=
    host.taker?_aside Dispatcher.aside_lettingThrough d d frame.queue
  have taken : (host.lettingThrough d).take (host.taker? d frame.queue) frame.payload =
      (host.take (host.taker? d frame.queue) frame.payload).lettingThrough d :=
    host.take_modifyDispatcher d _ _ _
  rw [dispatch_eq, dispatch_eq, verdict_lettingThrough inside drops, taker, taken,
    countAs_lettingThrough _ d (verdict_of_drop drops frame)]

theorem countAs_lettingThrough_other (host : Host β) (other : d ≠ e)
    (disposition : Disposition β) :
    (host.lettingThrough d).countAs e disposition =
      (host.countAs e disposition).lettingThrough d := by
  simp only [countAs, countFrame, countOutcome, lettingThrough, modifyDispatcher,
    List.modify_modify_ne _ _ _ other]

theorem dispatch_lettingThrough_other (host : Host β) (other : d ≠ e) (frame : Frame β) :
    (host.lettingThrough d).dispatch e frame =
      ((host.dispatch e frame).1, (host.dispatch e frame).2.lettingThrough d) := by
  have taker : (host.lettingThrough d).taker? e frame.queue = host.taker? e frame.queue :=
    host.taker?_aside Dispatcher.aside_lettingThrough d e frame.queue
  have taken : (host.lettingThrough d).take (host.taker? e frame.queue) frame.payload =
      (host.take (host.taker? e frame.queue) frame.payload).lettingThrough d :=
    host.take_modifyDispatcher d _ _ _
  rw [dispatch_eq, dispatch_eq, host.verdict_lettingThrough_other other, taker, taken,
    countAs_lettingThrough_other _ other]

def Operation.answerThrough (d : DispatcherId) : Operation β → Answer β → Answer β
  | .dispatch e frame, .disposition disposition =>
    .disposition (if d = e then disposition.lettingThrough frame.payload else disposition)
  | _, answer => answer

theorem perform_lettingThrough (inside : d < host.dispatchers.length)
    (drops : (host.dispatcher d).miss = .drop) (operation : Operation β) :
    (host.lettingThrough d).perform operation =
      { answer := operation.answerThrough d (host.perform operation).answer
        records := (host.perform operation).records
        host := (host.perform operation).host.lettingThrough d } := by
  cases operation with
  | request e request =>
    have seen := host.request_aside Dispatcher.aside_lettingThrough d e request
    simp only [perform, lettingThrough, seen]
    rfl
  | dispatch e frame =>
    by_cases same : d = e
    · subst same
      simp only [perform, dispatch_lettingThrough inside drops, Operation.answerThrough, if_pos]
    · simp only [perform, host.dispatch_lettingThrough_other same, Operation.answerThrough,
        if_neg same]
  | table operation => rfl
  | openRing depth => rfl
  | ring id operation => rfl

theorem run_lettingThrough (inside : d < host.dispatchers.length)
    (drops : (host.dispatcher d).miss = .drop) (operations : List (Operation β)) :
    (host.lettingThrough d).run operations = (host.run operations).lettingThrough d := by
  induction operations generalizing host with
  | nil => rfl
  | cons operation rest ih =>
    have same := host.policies_perform operation
    change ((host.lettingThrough d).perform operation).host.run rest = _
    rw [perform_lettingThrough inside drops]
    apply ih
    · rw [length_of_policies same]
      exact inside
    · exact (miss_of_policies same d).trans drops

theorem start_lettingThrough (table : Table) (policies : List MissPolicy) (d : DispatcherId) :
    (start table (policies.set d .drop) : Host β).lettingThrough d =
      start table (policies.set d .pass) := by
  have dispatchers : (start table (policies.set d .drop) : Host β).dispatchers.modify d
      Dispatcher.lettingThrough = (start table (policies.set d .pass) : Host β).dispatchers := by
    apply List.ext_getElem?
    intro e
    simp only [start, List.getElem?_modify, List.getElem?_map, List.getElem?_set]
    by_cases same : d = e
    · subst same
      by_cases inside : d < policies.length
      · simp [inside, Dispatcher.lettingThrough, Counters.lettingThrough]
      · simp [inside]
    · simp [same]
  rw [lettingThrough, modifyDispatcher, dispatchers]
  rfl

end Host

/-- Two hosts that differ in nothing but the misses of dispatcher `d`, which are dropped in the one
and passed on in the other. -/
structure Host.DifferInMisses (d : DispatcherId) (drops passes : Host β) : Prop where
  table : passes.table = drops.table
  sockets : passes.sockets = drops.sockets
  rings : passes.rings = drops.rings
  answers : ∀ operation, (∀ frame, operation ≠ .dispatch d frame) →
    (passes.perform operation).answer = (drops.perform operation).answer
  records : ∀ operation, (∀ frame, operation ≠ .dispatch d frame) →
    (passes.perform operation).records = (drops.perform operation).records
  /-- a frame is a miss on both sides, or on neither and answered the same -/
  frames : ∀ frame,
    ((drops.dispatch d frame).1 = .dropped .unmappedQueue ∧
      (passes.dispatch d frame).1 = .passed frame.payload) ∨
    ((passes.dispatch d frame).1 = (drops.dispatch d frame).1 ∧
      (drops.dispatch d frame).1 ≠ .dropped .unmappedQueue ∧
      ∀ payload, (drops.dispatch d frame).1 ≠ .passed payload)
  counted : (passes.dispatcher d).counters.frames = (drops.dispatcher d).counters.frames
  redirected : (passes.dispatcher d).counters.redirected = (drops.dispatcher d).counters.redirected
  unavailable : (passes.dispatcher d).counters.droppedUnavailable =
    (drops.dispatcher d).counters.droppedUnavailable
  missed : (passes.dispatcher d).counters.passed = (drops.dispatcher d).counters.droppedUnmapped
  others : ∀ e, d ≠ e → passes.dispatcher e = drops.dispatcher e

/-- The miss policy changes nothing but misses, in two runs of the same operations in which one
dispatcher drops its misses and lets them through. -/
theorem policy_changes_only_misses (table : Table) (policies : List MissPolicy) {d : DispatcherId}
    (inside : d < policies.length) (operations : List (Host.Operation β)) :
    Host.DifferInMisses d ((Host.start table (policies.set d .drop)).run operations)
      ((Host.start table (policies.set d .pass)).run operations) := by
  let drops : Host β := (Host.start table (policies.set d .drop)).run operations
  let passes : Host β := (Host.start table (policies.set d .pass)).run operations
  let start : Host β := .start table (policies.set d .drop)
  have started : d < start.dispatchers.length := by
    change d < ((policies.set d .drop).map _).length
    rw [List.length_map, List.length_set]
    exact inside
  have misses : (start.dispatcher d).miss = .drop := by
    rw [Host.miss_eq, Host.policies_start]
    simp [inside]
  have kept : drops.policies = start.policies := start.policies_run operations
  have there : d < drops.dispatchers.length := (Host.length_of_policies kept).symm ▸ started
  have dropsMisses : (drops.dispatcher d).miss = .drop :=
    (Host.miss_of_policies kept d).trans misses
  -- the second run is the first one, seen as if the misses had gone through
  have through : passes = drops.lettingThrough d := by
    rw [← Host.run_lettingThrough started misses, Host.start_lettingThrough]
  change Host.DifferInMisses d drops passes
  rw [through]
  have here := Host.dispatcher_lettingThrough there
  constructor
  case table => rfl
  case sockets => exact drops.sockets_modifyDispatcher d _ fun _ => ⟨rfl, rfl⟩
  case rings => rfl
  case counted => exact congrArg (fun dispatcher => dispatcher.counters.frames) here
  case redirected => exact congrArg (fun dispatcher => dispatcher.counters.redirected) here
  case unavailable =>
    exact congrArg (fun dispatcher => dispatcher.counters.droppedUnavailable) here
  case missed => exact congrArg (fun dispatcher => dispatcher.counters.passed) here
  case others => exact fun e other => drops.dispatcher_lettingThrough_other other
  case records =>
    intro operation _
    rw [Host.perform_lettingThrough there dropsMisses]
  case answers =>
    intro operation other
    rw [Host.perform_lettingThrough there dropsMisses]
    cases operation with
    | request e request => rfl
    | dispatch e frame =>
      have apart : d ≠ e := fun same => other frame (same ▸ rfl)
      exact congrArg Host.Answer.disposition (if_neg apart)
    | table operation => rfl
    | openRing depth => rfl
    | ring id operation => rfl
  case frames =>
    intro frame
    have passesNothing := Host.verdict_of_drop dropsMisses frame
    rw [Host.dispatch_lettingThrough there dropsMisses, Host.dispatch_eq]
    cases answer : drops.verdict d frame with
    | redirected handle => exact .inr ⟨rfl, by simp, by simp⟩
    | dropped reason =>
      cases reason with
      | unmappedQueue => exact .inl ⟨rfl, rfl⟩
      | targetUnavailable => exact .inr ⟨rfl, by simp, by simp⟩
    | passed payload =>
      rw [answer] at passesNothing
      exact absurd rfl passesNothing

/-- A frame on an unmapped queue, one redirected, one for a ring that is full, and one for a socket
that nobody has. -/
def missedAndTaken : List (Host.Operation Nat) :=
  [.openRing 1, .request 0 (.register 0), .dispatch 0 ⟨3, 1⟩, .request 0 (.bind ⟨3⟩ ⟨0⟩),
    .dispatch 0 ⟨3, 2⟩, .dispatch 0 ⟨3, 3⟩, .table (.update ⟨4⟩ ⟨9⟩), .dispatch 0 ⟨4, 4⟩]

theorem policies_agree_on_missedAndTaken :
    let drops := (Host.start .unbound [.drop]).run missedAndTaken
    let passes := (Host.start .unbound [.pass]).run missedAndTaken
    0 < [MissPolicy.drop].length ∧ passes.rings = drops.rings ∧
      (drops.dispatcher 0).counters = ⟨4, 1, 1, 2, 0⟩ ∧
      (passes.dispatcher 0).counters.passed = 1 ∧
      (drops.dispatch 0 ⟨5, 6⟩).1 = .dropped .unmappedQueue ∧
      (passes.dispatch 0 ⟨5, 6⟩).1 = .passed 6 := by
  intro drops passes
  have inside : 0 < [MissPolicy.drop].length := Nat.one_pos
  have differ := policy_changes_only_misses .unbound [.drop] inside missedAndTaken
  rw [List.set_cons_zero, List.set_cons_zero] at differ
  have account : (drops.dispatcher 0).counters = ⟨4, 1, 1, 2, 0⟩ := by decide +kernel
  have missed : (drops.dispatch 0 ⟨5, 6⟩).1 = .dropped .unmappedQueue := by decide +kernel
  refine ⟨inside, differ.rings, account, ?_, missed, ?_⟩
  · exact differ.missed.trans (congrArg Counters.droppedUnmapped account)
  · rcases differ.frames ⟨5, 6⟩ with both | ⟨-, other, -⟩
    · exact both.2
    · exact absurd missed other

end RxSteering
