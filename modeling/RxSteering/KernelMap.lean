import RxSteering.Object.Contents

/-!
The maps that a loader makes in the kernel for an object file. Some types set a size of their own;
a map without entries is refused, there is no place where a map could stay under its name, and a
type that the loader has no use for is found out once the map is made.
-/
namespace RxSteering

structure KernelMap where
  name : String
  mapType : Nat
  keySize : Nat
  valueSize : Nat
  entries : Nat
  value? : Option (List UInt8) := none
  deriving DecidableEq, Repr

namespace KernelMap

def knownTypes : Nat := 34

def unsupportedTypes : List Nat := [0, 8, 12, 13, 19, 20, 21, 24, 26, 28, 29, 31, 32, 33]

def eventType : Nat := 4

def ringType : Nat := 27

/-- Redirection to devices and to processors: the values name a program besides the target. -/
def targetTypes : List Nat := [14, 16, 25]

def pageSize : Nat := 4096

def processors : Nat := 1

/-- The size of a ring in bytes is a power of two of whole pages, in a word. -/
def ringSize (size : Nat) : Nat :=
  if size = 0 then 0
  else pageSize * ((size + pageSize - 1) / pageSize).nextPowerOfTwo % UInt32.size

def entriesOf (mapType entries : Nat) : Nat :=
  if mapType = ringType then ringSize entries
  else if mapType = eventType && entries = 0 then processors
  else entries

/-- Variables that start out as zero are not written. -/
def valueOf : Object.Variables → Option (List UInt8)
  | .bytes content => if content.isEmpty then none else some content
  | .zeroes _ => none

def create (map : Object.Map) : Except Object.Fault KernelMap :=
  let shape := map.shape
  let entries := entriesOf shape.mapType shape.entries
  if shape.mapType ≥ knownTypes then .error (.invalidMapType shape.mapType)
  else if entries = 0 then .error (.mapCreation map.name)
  else if shape.isPinned then .error (.mapPinning map.name)
  else .ok {
    name := map.name
    mapType := shape.mapType
    keySize := shape.keySize
    valueSize := if targetTypes.contains shape.mapType then 8 else shape.valueSize
    entries := entries
    value? := valueOf map.content }

def isSupported (map : KernelMap) : Bool := !unsupportedTypes.contains map.mapType

end KernelMap
end RxSteering
