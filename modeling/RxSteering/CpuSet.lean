import RxSteering.SystemError

/-!
The processors that a thread asks to run on: a set of numbers below the size of the mask.
-/
namespace RxSteering.CpuSet

def maskSize : Nat := 1024

def insert (cpu : Nat) : List Nat → List Nat
  | [] => [cpu]
  | other :: rest =>
    if cpu < other then cpu :: other :: rest
    else if cpu = other then other :: rest
    else other :: insert cpu rest

def ofList : List Nat → Except SystemError (List Nat) :=
  List.foldlM (fun set cpu =>
    if cpu < maskSize then .ok (insert cpu set)
    else .error (.custom .invalidInput
      s!"cpu {cpu} outside affinity mask of {maskSize} cpus")) []

/-- The set as asked of the kernel, which refuses an empty one. -/
def request (cpus : List Nat) : Except SystemError (List Nat) := do
  let set ← ofList cpus
  if set.isEmpty then throw (.numbered .invalidArgument) else return set

end RxSteering.CpuSet
