import RxSteering.Object.Fault
import RxSteering.Object.TypeInfo

/-!
What has to be known of an object file before the kernel gets the description of its types: how
large the data sections are and where the variables in them stand, unless the description says so.
Names that the kernel wants besides are written behind the others.
-/
namespace RxSteering.Object

structure DataLayout where
  sections : List String
  globals : List String
  deriving DecidableEq, Repr

namespace TypeInfo

def nameAt (info : TypeInfo) (offset : Nat) : Except Fault String :=
  match info.name? offset with
  | some name => .ok name
  | none => .error (.unreadableName offset)

def addName (info : TypeInfo) (name : String) : TypeInfo :=
  { info with names := info.names ++ name.toUTF8.toList ++ [0] }

def placeholderName : String := "enum64_placeholder"

/-- Adds the byte-wide integer that stands for an enumeration with wide values. -/
def addPlaceholder (info : TypeInfo) : TypeInfo :=
  let named := info.addName placeholderName
  { named with types := info.types ++ [⟨info.names.length, .integer, 1, [0]⟩] }

def nameParameters (info : TypeInfo) (entry : TypeEntry) : TypeInfo :=
  (TypeEntry.pairs entry.details).zipIdx.foldl (fun info ((nameOffset, type), index) =>
    if nameOffset = 0 && type ≠ 0 then info.addName s!"param{index}" else info) info

end TypeInfo

namespace DataLayout

def fileOnly : Nat := 0

def checkVariable (layout : DataLayout) (info : TypeInfo) (number : Nat) : Except Fault Unit :=
  match info.type? number with
  | none => .error (.unknownType number)
  | some entry =>
    if entry.kind ≠ .global then .error .noGlobal
    else do
      let name ← info.nameAt entry.nameOffset
      if entry.details.head? ≠ some fileOnly && !layout.globals.contains name then
        throw (.missingPlace name)

/-- Names of sections have no slash in the kernel. -/
def renameSection (info : TypeInfo) (name : String) : TypeInfo :=
  if name.toList.contains '/' then
    info.addName (String.ofList (name.toList.map fun c => if c = '/' then '.' else c))
  else info

def checkSection (layout : DataLayout) (info : TypeInfo) (entry : TypeEntry) :
    Except Fault TypeInfo := do
  let name ← info.nameAt entry.nameOffset
  let info := renameSection info name
  if entry.value ≠ 0 then return info
  if !layout.sections.contains name then throw (.missingSize name)
  (TypeEntry.triples entry.details).forM fun (number, _) => layout.checkVariable info number
  return info

def check (layout : DataLayout) (info : TypeInfo) (entry : TypeEntry) :
    Except Fault TypeInfo := do
  match entry.kind with
  | .dataSection => layout.checkSection info entry
  | .signature => return info.nameParameters entry
  | .function => (fun _ => info) <$> info.nameAt entry.nameOffset
  | _ => return info

def checkTypes (layout : DataLayout) (info : TypeInfo) : Except Fault Unit := do
  let _ ← info.types.foldlM layout.check info.addPlaceholder
  return

end DataLayout
end RxSteering.Object
