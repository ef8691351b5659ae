import Mathlib.Data.List.Induction
import RxSteering.Proofs.RingFlow

/-!
Payloads are conserved. In the book of any run every payload that was handed over meets one fate, or
is still under way; and for every ring, what it accepted is, in this order, what it gave out, what
it lost with its consumer, and what it still holds. Calls, bindings and producers play no part in
it.
-/
namespace RxSteering

variable {β : Type} {host after : Host β}

namespace Host

theorem Placed.fate {payload : β} {entry : Entry β} (placed : host.Placed after payload entry) :
    entry.fate? = some payload ∧ entry.handed? = none := by
  cases entry with
  | handed payload => exact placed.elim
  | received ring payload => exact placed.elim
  | discarded ring payload => exact placed.elim
  | accepted id taken => exact ⟨congrArg some placed.1, rfl⟩
  | returned given => exact ⟨congrArg some placed.1, rfl⟩
  | released lost => exact ⟨congrArg some placed.1, rfl⟩

theorem placed_offerTo (host : Host β) (handle : SocketHandle) (target : Option RingId)
    (payload : β) :
    ∃ entry, (host.offerTo handle target payload).1.toEntry (fun _ => target) payload = some entry ∧
      host.Placed (host.offerTo handle target payload).2 payload entry := by
  rw [offerTo_eq]
  cases target with
  | none => exact ⟨.released payload, rfl, rfl, rfl⟩
  | some id =>
    rw [Option.filter_some]
    cases room : (host.ring id).hasRoom with
    | true => exact ⟨.accepted id payload, rfl, rfl, room, host.rings_take (some id) payload⟩
    | false => exact ⟨.released payload, rfl, rfl, rfl⟩

theorem placed_dispatch (host : Host β) (d : DispatcherId) (frame : Frame β) :
    ∃ entry, (host.dispatch d frame).1.toEntry (host.socket? d) frame.payload = some entry ∧
      host.Placed (host.dispatch d frame).2 frame.payload entry := by
  cases bound : host.table.lookup frame.queue with
  | none =>
    obtain ⟨answer, rings⟩ := dispatch_of_unbound (d := d) bound
    rw [answer]
    cases (host.dispatcher d).miss with
    | drop => exact ⟨.released frame.payload, rfl, rfl, rings⟩
    | pass => exact ⟨.returned frame.payload, rfl, rfl, rings⟩
  | some handle =>
    cases leads : host.socket? d handle with
    | none =>
      have answer : (host.dispatch d frame).1 = .dropped .targetUnavailable := by
        rw [dispatch_eq, verdict_of_bound bound, taker?_of_bound bound, leads]
        rfl
      have rings : (host.dispatch d frame).2.rings = host.rings := by
        rw [rings_dispatch, taker?_of_bound bound, leads]
        rfl
      rw [answer]
      exact ⟨.released frame.payload, rfl, rfl, rings⟩
    | some id =>
      have outcome := dispatch_of_live bound leads
      cases room : (host.ring id).hasRoom with
      | true =>
        rw [room, if_pos rfl] at outcome
        rw [outcome.1]
        exact ⟨.accepted id frame.payload, by rw [Disposition.toEntry, leads]; rfl, rfl, room,
          outcome.2⟩
      | false =>
        rw [room, if_neg Bool.false_ne_true] at outcome
        rw [outcome.1]
        exact ⟨.released frame.payload, rfl, rfl, outcome.2⟩

theorem placed_deliver (host : Host β) (id : RingId) (payload : β) :
    host.Placed (host.perform (.ring id (.deliver payload))).host payload
      (((host.ring id).deliver payload).1.toEntry id payload) := by
  have rings : (host.perform (.ring id (.deliver payload))).host.rings =
      host.rings.set id ((host.ring id).deliver payload).2 :=
    host.modify_rings id fun ring => (ring.deliver payload).2
  cases closed : (host.ring id).isClosed with
  | true =>
    have answer := (host.ring id).deliver_of_gone payload closed
    rw [answer] at rings ⊢
    exact ⟨rfl, rings.trans (host.set_ring id)⟩
  | false =>
    cases full : (host.ring id).isFull with
    | true =>
      have answer := (host.ring id).deliver_of_full payload closed full
      rw [answer] at rings ⊢
      exact ⟨rfl, rings.trans (host.set_ring id)⟩
    | false =>
      have room : (host.ring id).hasRoom = true := by simp [Ring.hasRoom, closed, full]
      have answer := Ring.deliver_of_hasRoom room payload
      rw [answer] at rings ⊢
      exact ⟨rfl, room, rings⟩

/-- The access that settles a frame does what the answer will say; any other leaves the rings and
the payload as they are. -/
theorem pass_cases (host : Host β) (d : DispatcherId) (passage : Passage β) :
    (∃ payload disposition entry, passage.payload? = some payload ∧
      (host.pass d passage).2 = .settled disposition ∧
      disposition.toEntry (fun _ => passage.target?) payload = some entry ∧
      host.Placed (host.pass d passage).1 payload entry) ∨
    ((host.pass d passage).2.payload? = passage.payload? ∧
      ((host.pass d passage).2.disposition? = none ∨ passage.payload? = none) ∧
      (host.pass d passage).1.rings = host.rings) := by
  cases passage with
  | arrived frame => exact .inr ⟨rfl, .inl rfl, rfl⟩
  | counted frame => exact .inr ⟨rfl, .inl rfl, rfl⟩
  | decided decision payload =>
    cases decision with
    | redirect handle => exact .inr ⟨rfl, .inl rfl, rfl⟩
    | drop => exact .inl ⟨payload, _, .released payload, rfl, rfl, rfl, rfl, rfl⟩
    | pass => exact .inl ⟨payload, _, .returned payload, rfl, rfl, rfl, rfl, rfl⟩
  | aimed handle target payload =>
    obtain ⟨entry, answer, placed⟩ := host.placed_offerTo handle target payload
    exact .inl ⟨payload, _, entry, rfl, rfl, answer, placed⟩
  | settled disposition => exact .inr ⟨rfl, .inr rfl, rfl⟩
  | answered disposition => exact .inr ⟨rfl, .inr rfl, rfl⟩

end Host

/-- What the entries of an act say is what it does to the rings, and each payload that it takes up
meets its fate or is under way afterwards. -/
structure Told (scene : Scene β) (entries : List (Entry β)) (after : Scene β) : Prop where
  flow : Flow scene.host entries after.host
  moves : (entries.filterMap Entry.handed? ++ scene.underway).Perm
    (entries.filterMap Entry.fate? ++ after.underway)

namespace Scene

variable (scene : Scene β)

theorem moves_of_silent {entries : List (Entry β)} {after : Scene β}
    (silent : ∀ entry ∈ entries, entry.handed? = none ∧ entry.fate? = none)
    (same : after.frames = scene.frames) :
    (entries.filterMap Entry.handed? ++ scene.underway).Perm
      (entries.filterMap Entry.fate? ++ after.underway) := by
  rw [List.filterMap_eq_nil_iff.mpr fun entry member => (silent entry member).1,
    List.filterMap_eq_nil_iff.mpr fun entry member => (silent entry member).2, underway, underway,
    same]

theorem told_placed {payload : β} {entry : Entry β} {after : Scene β}
    (placed : scene.host.Placed after.host payload entry) (same : after.frames = scene.frames) :
    Told scene [.handed payload, entry] after where
  flow := (Flow.of_placed placed).handed payload
  moves := by
    obtain ⟨fate, silent⟩ := placed.fate
    have handed : [Entry.handed payload, entry].filterMap Entry.handed? = [payload] := by
      change payload :: [entry].filterMap Entry.handed? = [payload]
      rw [List.filterMap_cons_none silent, List.filterMap_nil]
    have met : [Entry.handed payload, entry].filterMap Entry.fate? = [payload] := by
      change [entry].filterMap Entry.fate? = [payload]
      rw [List.filterMap_cons_some fate, List.filterMap_nil]
    rw [handed, met, underway, underway, same]

theorem told_consumers {after : Scene β} (consumers : after.host.consumers = scene.host.consumers)
    (same : after.frames = scene.frames) : Told scene [] after where
  flow := .of_consumers consumers
  moves := scene.moves_of_silent (by simp) same

theorem told_gives {id : RingId} {change : Ring β → Ring β} {out : List β}
    (gives : (scene.host.ring id).Gives out (change (scene.host.ring id))) :
    Told scene (out.map (.received id)) { scene with host := scene.host.modifyRing id change } where
  flow := .of_gives gives
  moves := by
    refine scene.moves_of_silent ?_ rfl
    intro entry member
    obtain ⟨payload, -, rfl⟩ := List.mem_map.mp member
    exact ⟨rfl, rfl⟩

theorem told_ring (id : RingId) (operation : Ring.Operation β) :
    Told scene ((scene.host.ring id).entries id operation)
      { scene with host := (scene.host.perform (.ring id operation)).host } := by
  have kept {change : Ring β → Ring β} (kept : ∀ ring, (change ring).consumer = ring.consumer) :
      Told scene [] { scene with host := scene.host.modifyRing id change } :=
    scene.told_consumers (scene.host.consumers_modifyRing id kept) rfl
  cases operation with
  | deliver payload => exact scene.told_placed (scene.host.placed_deliver id payload) rfl
  | isFull => exact kept fun _ => rfl
  | addProducer => exact kept fun _ => rfl
  | dropProducer => exact kept fun _ => rfl
  | tryReceive => exact scene.told_gives (scene.host.ring id).gives_tryReceive
  | receive =>
    obtain ⟨entries, after⟩ := (scene.host.ring id).entries_receive id
    rw [entries]
    apply scene.told_gives
    change (scene.host.ring id).Gives _ (scene.host.ring id).receive.2
    rw [after]
    exact (scene.host.ring id).gives_tryReceive
  | drain => exact scene.told_gives (scene.host.ring id).gives_drain
  | length => exact kept fun _ => rfl
  | isEmpty => exact kept fun _ => rfl
  | dropConsumer =>
    refine ⟨.of_dropConsumer scene.host id, scene.moves_of_silent ?_ rfl⟩
    intro entry member
    obtain ⟨payload, -, rfl⟩ := List.mem_map.mp member
    exact ⟨rfl, rfl⟩

theorem flow_addRing (host : Host β) (depth : Nat) : Flow host [] (host.addRing depth) := by
  have opened (id : RingId) : (host.addRing depth).ring id =
      if id = host.rings.length then .ofDepth depth else host.ring id := by
    simp only [Host.ring, Host.addRing, List.getD_eq_getElem?_getD]
    rcases Nat.lt_trichotomy id host.rings.length with inside | new | outside
    · rw [List.getElem?_append_left inside, if_neg (Nat.ne_of_lt inside)]
    · subst new
      rw [List.getElem?_concat_length, if_pos rfl]
      rfl
    · have beyond : (host.rings ++ [Ring.ofDepth depth]).length ≤ id := by
        rw [List.length_append]
        exact outside
      rw [List.getElem?_eq_none beyond, if_neg (Nat.ne_of_gt outside),
        List.getElem?_eq_none (Nat.le_of_lt outside)]
  refine ⟨?_, fun id some => absurd rfl some, ?_⟩
  · intro id
    change (host.ring id).queued ++ [] = ((host.addRing depth).ring id).queued
    rw [List.append_nil, opened]
    split
    next new =>
      rw [Host.ring_of_outside (Nat.le_of_eq new.symm)]
      rfl
    next => rfl
  · intro id open'
    refine ⟨rfl, ?_⟩
    rcases Nat.lt_or_ge id host.rings.length with inside | outside
    · rcases open' with present | beyond
      · rw [opened, if_neg (Nat.ne_of_lt inside)] at present
        exact .inl present
      · have size : (host.addRing depth).rings.length = host.rings.length + 1 :=
          List.length_append ..
        rw [size] at beyond
        omega
    · exact .inr outside

theorem told_whole (operation : Host.Operation β) :
    Told scene (scene.host.entries operation)
      { scene with host := (scene.host.perform operation).host } := by
  cases operation with
  | request d request => exact scene.told_consumers (scene.host.consumers_request d request) rfl
  | dispatch d frame =>
    obtain ⟨entry, answer, placed⟩ := scene.host.placed_dispatch d frame
    rw [Host.entries, answer]
    exact scene.told_placed placed rfl
  | table operation => exact scene.told_consumers rfl rfl
  | openRing depth =>
    refine ⟨flow_addRing scene.host depth, scene.moves_of_silent ?_ rfl⟩
    exact fun _ member => absurd member List.not_mem_nil
  | ring id operation => exact scene.told_ring id operation

theorem told_advance (index : Nat) : Told scene [] (scene.advance index) := by
  unfold advance
  split
  next d call here => exact scene.told_consumers (Host.consumers_step d scene.host call) rfl
  next => exact scene.told_consumers rfl rfl

theorem told_proceed (index : Nat) :
    Told scene (scene.proceed index).1 (scene.proceed index).2 := by
  unfold proceed
  cases here : scene.frames[index]? with
  | none => exact scene.told_consumers rfl rfl
  | some frame =>
    obtain ⟨d, passage⟩ := frame
    have exchange := perm_flatMap_set scene.frames (fun frame => frame.2.payload?.toList) here
      (d, (scene.host.pass d passage).2)
    rcases scene.host.pass_cases d passage with
      ⟨payload, disposition, entry, carries, settles, answer, placed⟩ | ⟨carries, silent, rings⟩
    · -- the payload meets its fate and is under way no more
      have entries : passage.entries (scene.host.pass d passage).2 = [entry] := by
        simp [Passage.entries, carries, settles, Passage.disposition?, answer]
      simp only [entries]
      refine ⟨.of_placed placed, ?_⟩
      obtain ⟨fate, silent⟩ := placed.fate
      rw [List.filterMap_cons_none silent, List.filterMap_cons_some fate]
      rw [carries, settles] at exchange
      exact settles ▸ exchange.symm
    · have entries : passage.entries (scene.host.pass d passage).2 = [] := by
        rcases silent with unsettled | done
        · simp [Passage.entries, unsettled]
        · simp [Passage.entries, done]
      simp only [entries]
      refine ⟨.of_rings rings, ?_⟩
      simp only [carries] at exchange
      exact ((List.perm_append_left_iff _).mp exchange).symm

theorem told_play (act : Act β) : Told scene (scene.play act).1 (scene.play act).2 := by
  cases act with
  | whole operation => exact scene.told_whole operation
  | ask d request => exact scene.told_consumers rfl rfl
  | advance index => exact scene.told_advance index
  | arrive d frame =>
    refine ⟨(Flow.of_consumers rfl).handed frame.payload, ?_⟩
    have added : ({ scene with frames := scene.frames ++ [(d, .arrived frame)] } :
        Scene β).underway = scene.underway ++ [frame.payload] := List.flatMap_append ..
    change (frame.payload :: scene.underway).Perm
      ({ scene with frames := scene.frames ++ [(d, .arrived frame)] } : Scene β).underway
    rw [added]
    exact (List.perm_append_singleton frame.payload scene.underway).symm
  | proceed index => exact scene.told_proceed index

end Scene

structure Balanced (book : List (Entry β)) (scene : Scene β) : Prop where
  total : (book.filterMap Entry.handed?).Perm (book.filterMap Entry.fate? ++ scene.underway)
  flow : ∀ id, book.filterMap (Entry.accepted? id) =
    book.filterMap (Entry.received? id) ++ book.filterMap (Entry.discarded? id) ++
      (scene.host.ring id).queued
  lasting : ∀ id, scene.host.Unclosed id → book.filterMap (Entry.discarded? id) = []

namespace Balanced

variable {book entries : List (Entry β)} {scene next : Scene β}

theorem start (table : Table) (policies : List MissPolicy) :
    Balanced [] { host := Host.start table policies : Scene β } :=
  ⟨.nil, fun _ => rfl, fun _ _ => rfl⟩

open scoped List in
theorem step (balanced : Balanced book scene) (told : Told scene entries next) :
    Balanced (book ++ entries) next := by
  refine ⟨?_, ?_, ?_⟩
  · rw [List.filterMap_append, List.filterMap_append, List.append_assoc]
    calc
      _ ~ (book.filterMap Entry.fate? ++ scene.underway) ++ entries.filterMap Entry.handed? :=
        balanced.total.append_right _
      _ ~ book.filterMap Entry.fate? ++ (entries.filterMap Entry.handed? ++ scene.underway) := by
        rw [List.append_assoc]
        exact List.perm_append_comm.append_left _
      _ ~ _ := told.moves.append_left _
  · intro id
    -- what was lost before can only be followed by more of the same
    have order : book.filterMap (Entry.discarded? id) ++ entries.filterMap (Entry.received? id) =
        entries.filterMap (Entry.received? id) ++ book.filterMap (Entry.discarded? id) := by
      by_cases none : entries.filterMap (Entry.received? id) = []
      · rw [none, List.append_nil, List.nil_append]
      · rw [balanced.lasting id (.inl (told.flow.received id none)), List.append_nil,
          List.nil_append]
    have balance := told.flow.balance id
    simp only [List.filterMap_append, balanced.flow id, List.append_assoc] at order balance ⊢
    rw [balance, ← List.append_assoc (book.filterMap (Entry.discarded? id)), order,
      List.append_assoc]
  · intro id open'
    obtain ⟨none, before⟩ := told.flow.lasting id open'
    rw [List.filterMap_append, balanced.lasting id before, none]
    rfl

theorem run (balanced : Balanced book scene) (acts : List (Act β)) :
    Balanced (book ++ (scene.run acts).1) (scene.run acts).2 := by
  induction acts generalizing book scene with
  | nil => simpa [Scene.run] using balanced
  | cons act rest ih =>
    have later := ih (balanced.step (scene.told_play act))
    rw [List.append_assoc] at later
    exact later

end Balanced

namespace Scene

theorem run_append (scene : Scene β) (earlier later : List (Act β)) :
    (scene.run (earlier ++ later)).2 = ((scene.run earlier).2.run later).2 := by
  induction earlier generalizing scene with
  | nil => rfl
  | cons act rest ih => exact ih (scene.play act).2

variable {scene : Scene β} {index : Nat} {d : DispatcherId} {handle : SocketHandle}
  {target : Option RingId} {payload : β}

theorem aimed_of_pass {host : Host β} {passage : Passage β}
    (aims : (host.pass d passage).2 = .aimed handle target payload) :
    host.socket? d handle = target := by
  cases passage with
  | decided decision carried =>
    cases decision with
    | redirect other =>
      cases aims
      rfl
    | drop => cases aims
    | pass => cases aims
  | arrived frame => cases aims
  | counted frame => cases aims
  | aimed other ring carried => cases aims
  | settled disposition => cases aims
  | answered disposition => cases aims

theorem aimed_of_play {act : Act β}
    (aims : (scene.play act).2.frames[index]? = some (d, .aimed handle target payload)) :
    scene.frames[index]? = some (d, .aimed handle target payload) ∨
      scene.host.socket? d handle = target := by
  cases act with
  | whole operation => exact .inl aims
  | ask other request => exact .inl aims
  | advance other =>
    rw [play, frames_advance] at aims
    exact .inl aims
  | arrive other frame =>
    change (scene.frames ++ [(other, .arrived frame)])[index]? = _ at aims
    rw [List.getElem?_append] at aims
    split at aims
    next => exact .inl aims
    next =>
      obtain ⟨inside, same⟩ := List.getElem?_eq_some_iff.mp aims
      rw [List.getElem_singleton] at same
      cases same
  | proceed other =>
    change (scene.proceed other).2.frames[index]? = _ at aims
    unfold proceed at aims
    split at aims
    next e passage here =>
      change (scene.frames.set other (e, (scene.host.pass e passage).2))[index]? = _ at aims
      rw [List.getElem?_set] at aims
      split at aims
      next same =>
        split at aims
        next =>
          obtain ⟨rfl, settles⟩ := Prod.mk.inj (Option.some.inj aims)
          exact .inr (aimed_of_pass settles)
        next => cases aims
      next => exact .inl aims
    next => exact .inl aims

theorem aimed_of_run {table : Table} {policies : List MissPolicy} {acts : List (Act β)}
    (aims : ((({ host := Host.start table policies } : Scene β).run acts).2.frames[index]?) =
      some (d, .aimed handle target payload)) :
    ∃ earlier later, acts = earlier ++ later ∧
      (({ host := Host.start table policies } : Scene β).run earlier).2.host.socket? d handle =
        target := by
  induction acts using List.reverseRecOn with
  | nil => cases aims
  | append_singleton acts act ih =>
    rw [run_append] at aims
    rcases aimed_of_play aims with before | found
    · obtain ⟨earlier, later, rfl, leads⟩ := ih before
      exact ⟨earlier, later ++ [act], List.append_assoc .., leads⟩
    · exact ⟨acts, [act], rfl, found⟩

end Scene

/-- What becomes of payloads in acts that wrote this book and led from the start to this scene. -/
structure Conserves (start : Scene β) (acts : List (Act β)) (book : List (Entry β))
    (scene : Scene β) : Prop where
  /-- a payload that is handed over meets one fate, unless its frame is still under way -/
  fates : (book.filterMap Entry.handed?).Perm (book.filterMap Entry.fate? ++ scene.underway)
  /-- what a ring accepted it has given out, lost with its consumer or still holds, in this order -/
  rings : ∀ id, book.filterMap (Entry.accepted? id) = book.filterMap (Entry.received? id) ++
    book.filterMap (Entry.discarded? id) ++ (scene.host.ring id).queued
  lasting : ∀ id, (scene.host.ring id).isClosed = false →
    book.filterMap (Entry.discarded? id) = []
  /-- the answer to a frame tells the fate of its payload -/
  dispatched : ∀ d frame, ∃ entry,
    (scene.host.dispatch d frame).1.toEntry (scene.host.socket? d) frame.payload = some entry ∧
    scene.host.Placed (scene.host.dispatch d frame).2 frame.payload entry
  delivered : ∀ id payload,
    scene.host.Placed (scene.host.perform (.ring id (.deliver payload))).host payload
      (((scene.host.ring id).deliver payload).1.toEntry id payload)
  /-- so does the answer to a frame that others come between -/
  passed : ∀ d passage payload disposition, passage.payload? = some payload →
    (scene.host.pass d passage).2.disposition? = some disposition →
    ∃ entry, disposition.toEntry (fun _ => passage.target?) payload = some entry ∧
      scene.host.Placed (scene.host.pass d passage).1 payload entry
  /-- a frame aims at a ring that its socket had at a moment of the run -/
  aimed : ∀ (index : Nat) d handle target payload,
    scene.frames[index]? = some (d, Passage.aimed handle target payload) →
    ∃ earlier later, acts = earlier ++ later ∧
      (start.run earlier).2.host.socket? d handle = target
  requested : ∀ d request id, ((scene.host.perform (.request d request)).host.ring id).queued =
    (scene.host.ring id).queued
  stepped : ∀ d call id, ((scene.host.step d call).host.ring id).queued =
    (scene.host.ring id).queued
  outlasts : ∀ other id, ((scene.host.perform (.ring other .dropProducer)).host.ring id).queued =
    (scene.host.ring id).queued

/-- In every run, with any dispatchers, calls and frames under way at one time, every payload that
is handed over meets one fate: one ring accepts it, it is given back, or it is released, and the
answer says which. No call touches what is queued. -/
theorem payloads_are_conserved (table : Table) (policies : List MissPolicy)
    (acts : List (Act β)) :
    let start : Scene β := { host := Host.start table policies }
    Conserves start acts (start.run acts).1 (start.run acts).2 := by
  intro start
  have balanced : Balanced (start.run acts).1 (start.run acts).2 :=
    (Balanced.start table policies).run acts
  let host := (start.run acts).2.host
  constructor
  case fates => exact balanced.total
  case rings => exact balanced.flow
  case lasting => exact fun id present => balanced.lasting id (.inl present)
  case dispatched => exact host.placed_dispatch
  case delivered => exact host.placed_deliver
  case passed =>
    intro d passage payload disposition carries settles
    rcases host.pass_cases d passage with
      ⟨held, reached, entry, holds, settled, answer, placed⟩ | ⟨-, silent | none, -⟩
    · cases carries.symm.trans holds
      rw [settled] at settles
      cases settles
      exact ⟨entry, answer, placed⟩
    · cases silent.symm.trans settles
    · cases none.symm.trans carries
  case aimed => exact fun index d handle target payload aims => Scene.aimed_of_run aims
  case requested =>
    intro d request id
    exact Ring.queued_of_consumer
      (Host.consumer_of_consumers (host.consumers_request d request) id)
  case stepped =>
    intro d call id
    exact Ring.queued_of_consumer (Host.consumer_of_consumers (Host.consumers_step d host call) id)
  case outlasts =>
    intro other id
    have same : (host.perform (.ring other .dropProducer)).host.consumers = host.consumers :=
      host.consumers_modifyRing other fun _ => rfl
    exact Ring.queued_of_consumer (Host.consumer_of_consumers same id)

end RxSteering
