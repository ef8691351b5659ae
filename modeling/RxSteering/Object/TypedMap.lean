import RxSteering.Object.MapShape
import RxSteering.Object.TypeInfo

/-!
Maps that are described by types. Each is a global of a section for maps; its type is a record
whose fields are pointers: what they point to is a key, a value, or an array as long as a number.
-/
namespace RxSteering.Object.TypedMap

def number? (info : TypeInfo) (field : Nat) : Option Nat := do
  let pointer ← info.type? field
  guard (pointer.kind = .pointer)
  match (← info.type? pointer.value) with
  | ⟨_, .array, _, [_, _, length]⟩ => some length
  | _ => none

def targetSize? (info : TypeInfo) (field : Nat) : Option Nat := do
  let pointer ← info.type? field
  guard (pointer.kind = .pointer)
  return (← info.size? 1 TypeInfo.longestWay pointer.value) % UInt32.size

/-- A field changes the part of the shape that it names. Other fields say nothing. -/
def addField? (info : TypeInfo) (shape : MapShape) (name : String) (field : Nat) :
    Option MapShape :=
  match name with
  | "type" => (number? info field).map fun n => { shape with mapType := n }
  | "key" => (targetSize? info field).map fun n => { shape with keySize := n }
  | "key_size" => (number? info field).map fun n => { shape with keySize := n }
  | "value" => (targetSize? info field).map fun n => { shape with valueSize := n }
  | "value_size" => (number? info field).map fun n => { shape with valueSize := n }
  | "max_entries" => (number? info field).map fun n => { shape with entries := n }
  | "map_flags" => (number? info field).map fun _ => shape
  | "pinning" => (number? info field).map fun n => { shape with isPinned := n = 1 }
  | _ => some shape

def ofGlobal? (info : TypeInfo) (number : Nat) : Option (String × MapShape) := do
  let entry ← info.type? number
  guard (entry.kind = .global)
  let name ← info.name? entry.nameOffset
  let record ← info.plain? TypeInfo.longestWay entry.value
  guard (record.kind = .record)
  let shape ← (TypeEntry.triples record.details).foldlM (fun shape (nameOffset, field, _) => do
    addField? info shape (← info.name? nameOffset) field) {}
  return (name, shape)

def globals (info : TypeInfo) (sectionName : String) : List Nat :=
  let sections := info.types.filter fun entry =>
    entry.kind = .dataSection && info.name? entry.nameOffset = some sectionName
  sections.flatMap fun entry => (TypeEntry.triples entry.details).map Prod.fst

end RxSteering.Object.TypedMap
