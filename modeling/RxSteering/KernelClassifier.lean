import RxSteering.SocketMap

/-!
The classifier that runs in the kernel for every frame. It knows two things: the number of queue
slots it was compiled for, and a miss action that the loader writes into it. A queue beyond the
slots gets the miss action at once; for any other the redirect helper decides, with the miss
action as its flags.
-/
namespace RxSteering.KernelClassifier

def queueSlots : UInt32 := 64

/-- The miss action before any loader has written one. -/
def defaultMissAction : UInt32 := Action.drop.code

def helperCall? (missAction queue : UInt32) : Option HelperCall :=
  if queue ≥ queueSlots then none else some ⟨queue, missAction.toUInt64⟩

def verdict (missAction : UInt32) (helper : HelperCall → UInt32) (queue : UInt32) : UInt32 :=
  match helperCall? missAction queue with
  | none => missAction
  | some call => helper call

end RxSteering.KernelClassifier
