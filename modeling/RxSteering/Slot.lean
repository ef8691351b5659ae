import RxSteering.Identifiers

/-!
One slot of the redirect table: a single word, so that a binding is written and read at once. The
low half holds a handle and the bit above it says that one is there, which keeps handle 0 apart
from an empty slot. A slot that was written here is empty or the word of one handle
(`binding?_bound`, `bound_inj`).
-/
namespace RxSteering

structure Slot where
  word : UInt64
  deriving DecidableEq, Repr

namespace Slot

def boundBit : UInt64 := 0x100000000

def empty : Slot := ⟨0⟩

def bound (handle : SocketHandle) : Slot := ⟨boundBit ||| handle.id.toUInt64⟩

def binding? (slot : Slot) : Option SocketHandle :=
  if slot.word &&& boundBit = 0 then none else some ⟨slot.word.toUInt32⟩

theorem binding?_empty : empty.binding? = none := rfl

theorem toNat_word_bound (handle : SocketHandle) :
    (bound handle).word.toNat = UInt32.size + handle.id.toNat := by
  have small : handle.id.toNat < 2 ^ 32 := handle.id.toNat_lt
  simpa [bound, boundBit] using (Nat.two_pow_add_eq_or_of_lt small 1).symm

theorem bound_and_boundBit (handle : SocketHandle) :
    (bound handle).word &&& boundBit = boundBit := by
  apply UInt64.toNat.inj
  rw [UInt64.toNat_and, toNat_word_bound]
  have small : handle.id.toNat < 2 ^ 32 := handle.id.toNat_lt
  rw [show boundBit.toNat = 2 ^ 32 from rfl]
  apply Nat.eq_of_testBit_eq
  intro i
  rw [Nat.testBit_and, Nat.testBit_two_pow]
  by_cases high : 32 = i
  · subst high
    change ((2 ^ 32 + handle.id.toNat).testBit 32 && _) = _
    rw [Nat.testBit_two_pow_add_eq, Nat.testBit_lt_two_pow small]
    rfl
  · simp [high]

theorem binding?_bound (handle : SocketHandle) : (bound handle).binding? = some handle := by
  have small : handle.id.toNat < 2 ^ 32 := handle.id.toNat_lt
  have low : (bound handle).word.toUInt32 = handle.id := by
    apply UInt32.toNat.inj
    rw [UInt64.toNat_toUInt32, toNat_word_bound, UInt32.size]
    omega
  rw [binding?, bound_and_boundBit, if_neg (by decide), low]

theorem bound_inj {a b : SocketHandle} : bound a = bound b ↔ a = b := by
  constructor
  · intro same
    have := congrArg binding? same
    simpa [binding?_bound] using this
  · exact congrArg bound

end Slot
end RxSteering
