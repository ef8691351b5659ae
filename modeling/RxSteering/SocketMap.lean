import RxSteering.Classifier

/-!
The kernel's map from queues to sockets. The kernel binds and empties exactly the slot that it is
asked to, takes a delete of an empty slot for a success, and answers a redirect with the redirect
verdict for a bound slot and with the low two bits of the flags for an empty one.
-/
namespace RxSteering

def socketMapType : Nat := 17

structure SocketMap where
  mapType : Nat := socketMapType
  entries : Nat := maxCapacity.toNat
  sockets : List (QueueId × Int) := []
  deriving DecidableEq, Repr

structure HelperCall where
  key : UInt32
  flags : UInt64
  deriving DecidableEq, Repr

/-- What the redirect helper answers, by whether the slot that it is asked for is bound. Flags that
name no verdict of their own are refused. -/
def HelperCall.verdict (call : HelperCall) (bound : UInt32 → Bool) : UInt32 :=
  if call.flags > 3 then Action.aborted.code
  else if bound call.key then Action.redirect.code
  else call.flags.toUInt32

namespace SocketMap

def holdsSockets (map : SocketMap) : Bool := map.mapType = socketMapType

def descriptor? (map : SocketMap) (queue : QueueId) : Option Int :=
  (map.sockets.find? fun entry => entry.1 = queue).map Prod.snd

def isBound (map : SocketMap) (queue : UInt32) : Bool := (map.descriptor? ⟨queue⟩).isSome

def remove (map : SocketMap) (queue : QueueId) : SocketMap :=
  { map with sockets := map.sockets.filter fun entry => entry.1 ≠ queue }

def set (map : SocketMap) (queue : QueueId) (descriptor : Int) : SocketMap :=
  { map with sockets := (queue, descriptor) :: (map.remove queue).sockets }

def delete (map : SocketMap) (queue : QueueId) : Except Errno SocketMap :=
  if queue.index.toNat < map.entries then .ok (map.remove queue) else .error .invalidArgument

end SocketMap
end RxSteering
