/-!
Bytes read at an offset: runs of bytes, numbers in either byte order, rows of a table, and texts
that end with a zero byte. Nothing is read past the end.
-/
namespace RxSteering

inductive ByteOrder where
  | littleEndian
  | bigEndian
  deriving DecidableEq, Repr

def ByteOrder.number : ByteOrder → List UInt8 → Nat
  | .littleEndian, bytes => bytes.foldr (fun byte n => byte.toNat + 256 * n) 0
  | .bigEndian, bytes => bytes.foldl (fun n byte => 256 * n + byte.toNat) 0

namespace Bytes

def run? (bytes : List UInt8) (offset size : Nat) : Option (List UInt8) :=
  if offset + size ≤ bytes.length then some ((bytes.drop offset).take size) else none

def number? (order : ByteOrder) (bytes : List UInt8) (offset size : Nat) : Option Nat :=
  (run? bytes offset size).map order.number

def number (order : ByteOrder) (row : List UInt8) (offset size : Nat) : Nat :=
  order.number ((row.drop offset).take size)

def text? (bytes : List UInt8) (start stop : Nat) : Option String := do
  guard (start ≤ stop)
  let rest ← run? bytes start (stop - start)
  guard (rest.contains 0)
  String.fromUTF8? (rest.takeWhile (· ≠ 0)).toByteArray

def rows (size : Nat) (bytes : List UInt8) : List (List UInt8) :=
  (List.range (bytes.length / size)).map fun i => (bytes.drop (i * size)).take size

/-- The `size` bytes of a number, the lowest first. -/
def ofNumber : Nat → Nat → List UInt8
  | 0, _ => []
  | size + 1, n => UInt8.ofNat n :: ofNumber size (n / 256)

end Bytes
end RxSteering
