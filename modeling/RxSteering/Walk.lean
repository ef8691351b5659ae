import RxSteering.Table

/-!
A walk reads the table slot by slot while others may write to it. It sees each slot as it is at
the moment it gets there, never turns back, and once past the last slot it stays there.
-/
namespace RxSteering

structure Walk where
  /-- the number of slots already behind the walk -/
  passed : Nat
  deriving DecidableEq, Repr

namespace Walk

def start : Walk := ⟨0⟩

def firstBound : Nat → List Slot → Option (Nat × SocketHandle)
  | _, [] => none
  | index, slot :: rest =>
    match slot.binding? with
    | some handle => some (index, handle)
    | none => firstBound (index + 1) rest

/-- The next bound queue as the table stands now. -/
def next (walk : Walk) (table : Table) : Option Binding × Walk :=
  match firstBound walk.passed (table.slots.drop walk.passed) with
  | some (index, handle) => (some (⟨UInt32.ofNat index⟩, handle), ⟨index + 1⟩)
  | none => (none, ⟨max walk.passed table.slots.length⟩)

def take (walk : Walk) (table : Table) : Nat → List Binding × Walk
  | 0 => ([], walk)
  | n + 1 =>
    match walk.next table with
    | (some binding, after) =>
      let (more, last) := after.take table n
      (binding :: more, last)
    | (none, after) => ([], after)

def rest (walk : Walk) (table : Table) : List Binding := (walk.take table table.slots.length).1

end Walk
end RxSteering
