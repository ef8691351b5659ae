import RxSteering.Bytes

/-!
What an object file says of a map that it wants: its type, the sizes of its keys and of its
values, its entries, and whether it is to stay in the kernel under its name.
-/
namespace RxSteering.Object

structure MapShape where
  mapType : Nat := 0
  keySize : Nat := 0
  valueSize : Nat := 0
  entries : Nat := 0
  isPinned : Bool := false
  deriving DecidableEq, Repr

namespace MapShape

def leastSize : Nat := 20

/-- A description is of words: the first four are the numbers, and the seventh pins the map. What
is left out at the end is zero. -/
def ofDescription? (description : List UInt8) : Option MapShape :=
  if description.length < leastSize then none
  else
    let word := fun place => Bytes.number .littleEndian description (4 * place) 4
    some ⟨word 0, word 1, word 2, word 3, word 6 ≠ 0⟩

def toDescription (shape : MapShape) : List UInt8 :=
  [shape.mapType, shape.keySize, shape.valueSize, shape.entries, 0, 0,
    if shape.isPinned then 1 else 0].flatMap (Bytes.ofNumber 4)

end MapShape
end RxSteering.Object
