import RxSteering.Text.Inspect

/-!
The two numbers that steering joins: the receive queue that a frame arrived on, and the handle of
the socket that takes it.
-/
namespace RxSteering

open Text

structure QueueId where
  index : UInt32
  deriving DecidableEq, Ord, Repr, Inhabited

structure SocketHandle where
  id : UInt32
  deriving DecidableEq, Ord, Repr, Inhabited

theorem QueueId.toNat_inj {a b : QueueId} : a.index.toNat = b.index.toNat ↔ a = b := by
  cases a
  cases b
  simp [UInt32.toNat_inj]

/-- The most queues that one redirect table serves, in the kernel and in the process. -/
def maxCapacity : UInt32 := 64

def QueueId.text (queue : QueueId) : String := toString queue.index.toNat

def SocketHandle.text (handle : SocketHandle) : String := "#" ++ toString handle.id.toNat

instance : Inspect QueueId := ⟨fun queue => .tuple "QueueId" [Inspect.layout queue.index]⟩

instance : Inspect SocketHandle :=
  ⟨fun handle => .tuple "SocketHandle" [Inspect.layout handle.id]⟩

end RxSteering
