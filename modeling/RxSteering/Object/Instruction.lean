import RxSteering.Bytes

/-!
The instructions of a function, as far as they are changed when functions are put together. A
number in an instruction that only the kernel can know is left out.
-/
namespace RxSteering.Object

structure Instruction where
  operation : UInt8
  /-- the register that is written, or zero -/
  target : Nat
  /-- the register that is read, or what the operand stands for -/
  source : Nat
  displacement : Nat
  operand? : Option Int
  deriving DecidableEq, Repr

namespace Instruction

def size : Nat := 8

def signed (n : Int) : Int := n.bmod UInt32.size

def ofRow (row : List UInt8) : Instruction :=
  let number := Bytes.number .littleEndian row
  { operation := UInt8.ofNat (number 0 1)
    target := number 1 1 % 16
    source := number 1 1 / 16
    displacement := number 2 2
    operand? := some (signed (number 4 4)) }

def ofBytes? (bytes : List UInt8) : Option (List Instruction) :=
  if bytes.length % size = 0 then some ((Bytes.rows size bytes).map ofRow) else none

def callOperation : UInt8 := 0x85

def exitOperation : UInt8 := 0x95

/-- The source of a call to a function of the same object, and the one of a map. -/
def ownSource : Nat := 1

def variableSource : Nat := 2

def isCall (instruction : Instruction) : Bool :=
  instruction.operation = callOperation && instruction.source = ownSource &&
    instruction.target = 0 && instruction.displacement = 0

def isExit (instruction : Instruction) : Bool := instruction.operation = exitOperation

def withMap (instruction : Instruction) (source : Nat) : Instruction :=
  { instruction with source := source, operand? := none }

end Instruction
end RxSteering.Object
