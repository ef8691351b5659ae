import RxSteering.Proofs.Passage
import RxSteering.Proofs.Rings

/-!
A host with everything that goes on around it at one time: calls and frames on their way through any
of its dispatchers, each at the access that it has reached, and whole operations on the table and
the rings in between. Every act is entered in a book of payloads by what it answers: who was handed
a payload, which ring accepted it, whether it was returned or released, and when a ring gave it out
or lost it with its consumer.
-/
namespace RxSteering

variable {β : Type}

inductive Entry (β : Type) where
  /-- the payload was given to a dispatcher or to a producer -/
  | handed (payload : β)
  | accepted (ring : RingId) (payload : β)
  /-- the payload was given back -/
  | returned (payload : β)
  | released (payload : β)
  | received (ring : RingId) (payload : β)
  /-- the payload was queued when the consumer left -/
  | discarded (ring : RingId) (payload : β)
  deriving DecidableEq, Repr

namespace Entry

def handed? : Entry β → Option β
  | handed payload => some payload
  | _ => none

def fate? : Entry β → Option β
  | accepted _ payload => some payload
  | returned payload => some payload
  | released payload => some payload
  | _ => none

def accepted? (id : RingId) : Entry β → Option β
  | accepted ring payload => if ring = id then some payload else none
  | _ => none

def received? (id : RingId) : Entry β → Option β
  | received ring payload => if ring = id then some payload else none
  | _ => none

def discarded? (id : RingId) : Entry β → Option β
  | discarded ring payload => if ring = id then some payload else none
  | _ => none

end Entry

/-- What an answered frame says of its payload; a socket stands for the ring that it led to. -/
def Disposition.toEntry (ringOf : SocketHandle → Option RingId) (payload : β) :
    Disposition β → Option (Entry β)
  | .redirected handle => (ringOf handle).map (.accepted · payload)
  | .passed other => some (.returned other)
  | .dropped _ => some (.released payload)

def Delivery.toEntry (id : RingId) (payload : β) : Delivery β → Entry β
  | accepted => .accepted id payload
  | full other => .returned other
  | closed other => .returned other

def Ring.entries (ring : Ring β) (id : RingId) : Ring.Operation β → List (Entry β)
  | .deliver payload => [.handed payload, (ring.deliver payload).1.toEntry id payload]
  | .tryReceive => ring.tryReceive.1.toList.map (.received id)
  | .receive =>
    match ring.receive.1 with
    | .payload payload => [.received id payload]
    | _ => []
  | .drain => ring.drain.1.map (.received id)
  | .dropConsumer => ring.queued.map (.discarded id)
  | _ => []

def Host.entries (host : Host β) : Host.Operation β → List (Entry β)
  | .dispatch d frame =>
    .handed frame.payload ::
      ((host.dispatch d frame).1.toEntry (host.socket? d) frame.payload).toList
  | .ring id operation => (host.ring id).entries id operation
  | _ => []

def Passage.entries (before after : Passage β) : List (Entry β) :=
  match before.payload?, after.disposition? with
  | some payload, some disposition =>
    (disposition.toEntry (fun _ => before.target?) payload).toList
  | _, _ => []

/-- Calls and frames stay listed when they have come to their end. -/
structure Scene (β : Type) where
  host : Host β
  calls : List (DispatcherId × Progress) := []
  frames : List (DispatcherId × Passage β) := []

inductive Act (β : Type) where
  | whole (operation : Host.Operation β)
  | ask (d : DispatcherId) (request : Request)
  | advance (index : Nat)
  | arrive (d : DispatcherId) (frame : Frame β)
  | proceed (index : Nat)
  deriving DecidableEq, Repr

namespace Scene

def underway (scene : Scene β) : List β :=
  scene.frames.flatMap fun frame => frame.2.payload?.toList

def advance (scene : Scene β) (index : Nat) : Scene β :=
  match scene.calls[index]? with
  | some (d, .ongoing call) =>
    { scene with
      host := (scene.host.step d call).host
      calls := scene.calls.set index (d, (scene.host.step d call).progress) }
  | _ => scene

theorem frames_advance (scene : Scene β) (index : Nat) :
    (scene.advance index).frames = scene.frames := by
  unfold advance
  split
  next => rfl
  next => rfl

def proceed (scene : Scene β) (index : Nat) : List (Entry β) × Scene β :=
  match scene.frames[index]? with
  | some (d, passage) =>
    let (host, next) := scene.host.pass d passage
    (passage.entries next,
      { scene with host := host, frames := scene.frames.set index (d, next) })
  | none => ([], scene)

def play (scene : Scene β) : Act β → List (Entry β) × Scene β
  | .whole operation =>
    (scene.host.entries operation, { scene with host := (scene.host.perform operation).host })
  | .ask d request =>
    ([], { scene with calls := scene.calls ++ [(d, .ongoing (.asked request))] })
  | .advance index => ([], scene.advance index)
  | .arrive d frame =>
    ([.handed frame.payload], { scene with frames := scene.frames ++ [(d, .arrived frame)] })
  | .proceed index => scene.proceed index

def run (scene : Scene β) : List (Act β) → List (Entry β) × Scene β
  | [] => ([], scene)
  | act :: rest =>
    let (entries, after) := scene.play act
    let (more, last) := after.run rest
    (entries ++ more, last)

end Scene
end RxSteering
