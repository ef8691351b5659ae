import RxSteering.Bytes
import RxSteering.Text.Lenient

/-!
The description of types that an object file may carry. Types are numbered from one, and number
zero is no type. Their names stand behind each other in one place.
-/
namespace RxSteering.Object

structure ContentPart where
  offset : Nat
  size : Nat
  deriving DecidableEq, Repr

namespace ContentPart

def ofHeader (content : List UInt8) (place : Nat) : ContentPart :=
  ⟨Bytes.number .littleEndian content place 4, Bytes.number .littleEndian content (place + 4) 4⟩

def bytes? (part : ContentPart) (content : List UInt8) (headerSize : Nat) : Option (List UInt8) :=
  Bytes.run? content (headerSize + part.offset) part.size

end ContentPart

inductive TypeKind where
  | none
  | integer
  | pointer
  | array
  | record
  | union
  | enumeration
  | forward
  | synonym
  | volatile
  | constant
  | restricted
  | function
  | signature
  | global
  | dataSection
  | floating
  | note
  | typeNote
  | wideEnumeration
  deriving DecidableEq, Repr

namespace TypeKind

def all : List TypeKind :=
  [none, integer, pointer, array, record, union, enumeration, forward, synonym, volatile, constant,
    restricted, function, signature, global, dataSection, floating, note, typeNote,
    wideEnumeration]

def ofNumber? (n : Nat) : Option TypeKind := all[n]?

def itemWords : TypeKind → Nat
  | record | union | dataSection | wideEnumeration => 3
  | enumeration | signature => 2
  | _ => 0

def detailWords (kind : TypeKind) (count : Nat) : Nat :=
  match kind with
  | integer | global | note => 1
  | array => 3
  | _ => count * kind.itemWords

def hasSize : TypeKind → Bool
  | integer | record | union | enumeration | dataSection | floating | wideEnumeration => true
  | _ => false

def leadsOn : TypeKind → Bool
  | synonym | volatile | constant | restricted | signature | global | note | typeNote => true
  | _ => false

def isTransparent : TypeKind → Bool
  | synonym | volatile | constant | restricted | typeNote => true
  | _ => false

end TypeKind

structure TypeEntry where
  nameOffset : Nat
  kind : TypeKind
  /-- a size, or the number of a type -/
  value : Nat
  details : List Nat
  deriving DecidableEq, Repr

namespace TypeEntry

def nothing : TypeEntry := ⟨0, .none, 0, []⟩

/-- The types that the words describe, one behind the other. The second word of a type has its
kind and the count of its items. -/
def ofWords? : List Nat → Option (List TypeEntry)
  | [] => some []
  | nameOffset :: info :: value :: rest => do
    let kind ← TypeKind.ofNumber? (info / 0x1000000 % 32)
    let size := kind.detailWords (info % UInt16.size)
    if size ≤ rest.length then
      return ⟨nameOffset, kind, value, rest.take size⟩ :: (← ofWords? (rest.drop size))
    else none
  | _ => none
termination_by words => words.length
decreasing_by simp only [List.length_drop, List.length_cons]; omega

def pairs : List Nat → List (Nat × Nat)
  | a :: b :: rest => (a, b) :: pairs rest
  | _ => []

def triples : List Nat → List (Nat × Nat × Nat)
  | a :: b :: c :: rest => (a, b, c) :: triples rest
  | _ => []

end TypeEntry

structure TypeInfo where
  types : List TypeEntry
  names : List UInt8
  deriving DecidableEq, Repr

namespace TypeInfo

def headerSize : Nat := 24

def ofContent? (content : List UInt8) : Option TypeInfo := do
  guard (headerSize ≤ content.length)
  let size := Bytes.number .littleEndian content 4 4
  let names ← (ContentPart.ofHeader content 16).bytes? content size
  let types ← (ContentPart.ofHeader content 8).bytes? content size
  guard (types.length % 4 = 0)
  let types ← TypeEntry.ofWords? ((Bytes.rows 4 types).map ByteOrder.littleEndian.number)
  return ⟨types, names⟩

def type? (info : TypeInfo) (number : Nat) : Option TypeEntry :=
  (TypeEntry.nothing :: info.types)[number]?

def name? (info : TypeInfo) (offset : Nat) : Option String :=
  let rest := info.names.drop offset
  if rest.contains 0 then some (Text.Lenient.decode (rest.takeWhile (· ≠ 0))) else none

/-- How many types on a way are looked at before it is given up. -/
def longestWay : Nat := 32

def plain? (info : TypeInfo) : (way : Nat) → (number : Nat) → Option TypeEntry
  | 0, _ => none
  | way + 1, number => do
    let entry ← info.type? number
    if entry.kind.isTransparent then info.plain? way entry.value else return entry

def size? (info : TypeInfo) (elements : Nat) : (way : Nat) → (number : Nat) → Option Nat
  | 0, _ => none
  | way + 1, number => do
    let entry ← info.type? number
    match entry.kind, entry.details with
    | .array, [element, _, length] => info.size? length way element
    | kind, _ =>
      if kind.hasSize then some (entry.value * elements)
      else if kind = .pointer then some (8 * elements)
      else if kind.leadsOn then info.size? elements way entry.value
      else none

end TypeInfo

end RxSteering.Object
