import RxSteering.Text.Inspect

/-!
A receive ring: a bounded queue of payloads between any number of producers and one consumer. A
delivery never waits. A payload that cannot be taken in is handed back, and what is queued stays
queued until the consumer takes it or leaves.
-/
namespace RxSteering

open Text

/-- The receiving end. Once the consumer has gone its queued payloads are discarded, and the ring
remembers only how many there were. -/
inductive Consumer (β : Type) where
  | present (queued : List β)
  | gone (fill : Nat)
  deriving DecidableEq, Repr

structure Ring (β : Type) where
  depth : Nat
  /-- the number of producers that are still held, by registrations too -/
  producers : Nat
  consumer : Consumer β
  deriving DecidableEq, Repr

inductive Delivery (β : Type) where
  | accepted
  | full (payload : β)
  | closed (payload : β)
  deriving DecidableEq, Repr

def Delivery.isAccepted {β : Type} : Delivery β → Bool
  | accepted => true
  | _ => false

inductive Receipt (β : Type) where
  | payload (payload : β)
  /-- nothing is queued and nobody is left to deliver -/
  | ended
  /-- nothing is queued yet -/
  | waiting
  deriving DecidableEq, Repr

def Receipt.payload? {β : Type} : Receipt β → Option β
  | .payload taken => some taken
  | .ended => none
  | .waiting => none

namespace Ring

variable {β : Type}

def ofDepth (depth : Nat) : Ring β := ⟨depth, 1, .present []⟩

instance : Inhabited (Ring β) := ⟨⟨0, 0, .gone 0⟩⟩

def queued (ring : Ring β) : List β :=
  match ring.consumer with
  | .present queued => queued
  | .gone _ => []

def fill (ring : Ring β) : Nat :=
  match ring.consumer with
  | .present queued => queued.length
  | .gone fill => fill

def isFull (ring : Ring β) : Bool := ring.depth ≤ ring.fill

def isClosed (ring : Ring β) : Bool :=
  match ring.consumer with
  | .present _ => false
  | .gone _ => true

def deliver (ring : Ring β) (payload : β) : Delivery β × Ring β :=
  match ring.consumer with
  | .gone _ => (.closed payload, ring)
  | .present queued =>
    if ring.isFull then (.full payload, ring)
    else (.accepted, { ring with consumer := .present (queued ++ [payload]) })

theorem deliver_of_gone (ring : Ring β) (payload : β) (closed : ring.isClosed = true) :
    ring.deliver payload = (.closed payload, ring) := by
  unfold isClosed at closed
  unfold deliver
  split at closed
  · cases closed
  · rename_i gone
    simp only [gone]

theorem deliver_of_full (ring : Ring β) (payload : β) (present : ring.isClosed = false)
    (full : ring.isFull = true) : ring.deliver payload = (.full payload, ring) := by
  unfold isClosed at present
  unfold deliver
  split at present
  · rename_i queued here
    simp only [here, full, if_true]
  · cases present

theorem deliver_of_room (ring : Ring β) (payload : β) (present : ring.isClosed = false)
    (room : ring.isFull = false) :
    ring.deliver payload =
      (.accepted, { ring with consumer := .present (ring.queued ++ [payload]) }) := by
  unfold isClosed at present
  unfold deliver queued
  split at present
  · rename_i queued here
    simp only [here, room, Bool.false_eq_true, if_false]
  · cases present

def addProducer (ring : Ring β) : Ring β := { ring with producers := ring.producers + 1 }

def dropProducer (ring : Ring β) : Ring β := { ring with producers := ring.producers - 1 }

def dropConsumer (ring : Ring β) : Ring β := { ring with consumer := .gone ring.fill }

def tryReceive (ring : Ring β) : Option β × Ring β :=
  match ring.consumer with
  | .present (payload :: rest) => (some payload, { ring with consumer := .present rest })
  | _ => (none, ring)

def receive (ring : Ring β) : Receipt β × Ring β :=
  match ring.tryReceive with
  | (some payload, after) => (.payload payload, after)
  | (none, after) => (if ring.producers = 0 then .ended else .waiting, after)

/-- Waits for a payload until a deadline, with nobody delivering meanwhile. -/
def receiveInTime (ring : Ring β) : Option β × Ring β := ring.receive.map Receipt.payload? id

theorem receiveInTime_eq (ring : Ring β) : ring.receiveInTime = ring.tryReceive := by
  rw [receiveInTime, receive]
  cases ring.tryReceive with
  | mk taken after =>
    cases taken with
    | some payload => rfl
    | none => by_cases ended : ring.producers = 0 <;> simp [ended, Receipt.payload?]

def drain (ring : Ring β) : List β × Ring β :=
  match ring.consumer with
  | .present queued => (queued, { ring with consumer := .present [] })
  | .gone _ => ([], ring)

inductive Operation (β : Type) where
  | deliver (payload : β)
  | isFull
  | addProducer
  | dropProducer
  | tryReceive
  | receive
  | drain
  | length
  | isEmpty
  | dropConsumer
  deriving DecidableEq, Repr

inductive Answer (β : Type) where
  | delivery (delivery : Delivery β)
  | flag (value : Bool)
  | done
  | taken (payload : Option β)
  | receipt (receipt : Receipt β)
  | payloads (list : List β)
  | number (value : Nat)
  deriving DecidableEq, Repr

def perform (ring : Ring β) : Operation β → Answer β × Ring β
  | .deliver payload => (ring.deliver payload).map .delivery id
  | .isFull => (.flag ring.isFull, ring)
  | .addProducer => (.done, ring.addProducer)
  | .dropProducer => (.done, ring.dropProducer)
  | .tryReceive => ring.tryReceive.map .taken id
  | .receive => ring.receive.map .receipt id
  | .drain => ring.drain.map .payloads id
  | .length => (.number ring.queued.length, ring)
  | .isEmpty => (.flag ring.queued.isEmpty, ring)
  | .dropConsumer => (.done, ring.dropConsumer)

end Ring

instance {β : Type} [Inspect β] : Inspect (Delivery β) where
  layout
    | .accepted => .word "Accepted"
    | .full payload => .tuple "Full" [Inspect.layout payload]
    | .closed payload => .tuple "Closed" [Inspect.layout payload]

end RxSteering
