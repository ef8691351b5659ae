import RxSteering.Object.DataLayout
import RxSteering.Object.File
import RxSteering.Object.Instruction
import RxSteering.Object.LineInfo
import RxSteering.Object.SectionKind
import RxSteering.Object.TypedMap

/-!
What an object file gives to a loader: the maps to make, the functions with their code, and the
programs among them. Of two maps, functions or programs with the same name, or at the same place,
the later one counts. `File.contents` reads a file or reports the first fault.
-/
namespace RxSteering.Object

inductive Variables where
  | bytes (content : List UInt8)
  | zeroes (count : Nat)
  deriving DecidableEq, Repr

namespace Variables

def none : Variables := .bytes []

def size : Variables → Nat
  | .bytes content => content.length
  | .zeroes count => count

/-- Writes over some of the variables. The kernel makes those that start out as zero, and what is
written over them does not get there. -/
def write (values : Variables) (offset : Nat) (bytes : List UInt8) : Variables :=
  match values with
  | .bytes content =>
    .bytes (content.take offset ++ bytes ++ content.drop (offset + bytes.length))
  | .zeroes count => .zeroes count

end Variables

structure Map where
  name : String
  home : Nat
  symbol? : Option Nat
  shape : MapShape
  content : Variables
  deriving DecidableEq, Repr

structure Routine where
  home : Nat
  address : Nat
  /-- where it starts in its section, for what refers to places in it -/
  offset : Nat
  code : List Instruction
  deriving DecidableEq, Repr

structure Program where
  name : String
  home : Nat
  address : Nat
  kind : ProgramKind
  deriving DecidableEq, Repr

structure Contents where
  symbols : List Symbol
  sectionNames : List String
  types? : Option TypeInfo
  maps : List Map := []
  routines : List Routine := []
  programs : List Program := []
  /-- the relocations of each section with code -/
  relocations : List (Nat × List Relocation) := []
  deriving DecidableEq, Repr

namespace Contents

def insertMap (contents : Contents) (map : Map) : Contents :=
  { contents with maps := contents.maps.filter (·.name ≠ map.name) ++ [map] }

def insertRoutine (contents : Contents) (routine : Routine) : Contents :=
  { contents with routines := contents.routines.filter (fun other =>
      (other.home, other.address) ≠ (routine.home, routine.address)) ++ [routine] }

def insertProgram (contents : Contents) (program : Program) : Contents :=
  { contents with programs := contents.programs.filter (·.name ≠ program.name) ++ [program] }

def symbolsAt (contents : Contents) (home : Nat) : List Symbol :=
  contents.symbols.filter fun symbol => symbol.home? = some home

def routineAt? (contents : Contents) (home address : Nat) : Option Routine :=
  contents.routines.find? fun routine => routine.home = home && routine.address = address

def programNamed? (contents : Contents) (name : String) : Option Program :=
  contents.programs.find? fun program => program.name = name

def patch (contents : Contents) (variableName : String) (bytes : List UInt8) :
    Except Fault Contents :=
  match contents.symbols.find? fun symbol => symbol.name? = some variableName with
  | none => .error (.missingSymbol variableName)
  | some symbol =>
    let misfit := Fault.symbolSize variableName symbol.size bytes.length
    if symbol.size ≠ bytes.length then .error misfit
    else
      match contents.maps.find? fun map => symbol.home? = some map.home with
      | none => .error (.missingMap (symbol.home?.getD 0))
      | some map =>
        if symbol.address + symbol.size > map.content.size then .error misfit
        else
          .ok (contents.insertMap
            { map with content := map.content.write symbol.address bytes })

def layout (contents : Contents) : DataLayout :=
  { sections := contents.sectionNames
    globals := (contents.symbols.filter Symbol.isPlaced).filterMap Symbol.name? }

def checkTypes (contents : Contents) : Except Fault Unit :=
  match contents.types? with
  | none => .ok ()
  | some info => contents.layout.checkTypes info

end Contents

structure ReadSection where
  origin : Section
  name : String
  content : List UInt8
  deriving DecidableEq, Repr

def Section.read (part : Section) : Except Fault ReadSection :=
  match part.name?, part.content? with
  | some name, some content =>
    if part.relocations.any fun relocation => relocation.symbol?.isNone then
      .error .unsupportedTarget
    else .ok ⟨part, name, content⟩
  | _, _ => .error (.unreadableSection part.index)

namespace ReadSection

def checkLicense (part : ReadSection) : Except Fault Unit :=
  if part.content.length < 2 then .error (.invalidLicense part.content)
  else if part.content.getLast? ≠ some 0 then .error (.unterminatedLicense part.content)
  else if part.content.dropLast.contains 0 then .error (.invalidLicense part.content)
  else .ok ()

def checkVersion (part : ReadSection) : Except Fault Unit :=
  if part.content.length = 4 then .ok () else .error (.invalidVersion part.content)

def variableMap (part : ReadSection) : Map :=
  { name := part.name
    home := part.origin.index
    symbol? := none
    shape := ⟨2, 4, part.origin.size % UInt32.size, 1, false⟩
    content :=
      if SectionKind.ofName part.name = .zeroes then .zeroes part.origin.size
      else .bytes part.content }

def code (part : ReadSection) (offset size : Nat) : Except Fault (List Instruction) :=
  match (Bytes.run? part.content offset size).bind Instruction.ofBytes? with
  | none => .error .invalidCode
  | some code => .ok code

def map (part : ReadSection) (symbol : Symbol) : Except Fault Map :=
  let name := symbol.name?.getD ""
  let description := Bytes.run? part.content symbol.address symbol.size
  match description.bind MapShape.ofDescription? with
  | none => .error (.invalidMap name)
  | some shape => .ok ⟨name, part.origin.index, some symbol.index, shape, .none⟩

def readMaps (part : ReadSection) (contents : Contents) : Except Fault Contents :=
  match contents.symbolsAt part.origin.index with
  | [] => .error (.noSymbols part.name)
  | symbols =>
    symbols.foldlM (fun contents symbol => contents.insertMap <$> part.map symbol) contents

def typedMap (part : ReadSection) (symbols : List Symbol) (info : TypeInfo) (global : Nat) :
    Except Fault Map :=
  match TypedMap.ofGlobal? info global with
  | none => .error .invalidTypes
  | some (name, shape) =>
    match symbols.findRev? fun symbol => symbol.name? = some name with
    | none => .error (.missingSymbol name)
    | some symbol => .ok ⟨name, part.origin.index, some symbol.index, shape, .none⟩

def readTypedMaps (part : ReadSection) (contents : Contents) : Except Fault Contents :=
  match contents.types?, contents.symbolsAt part.origin.index with
  | none, _ => .error .missingTypes
  | _, [] => .error (.noSymbols part.name)
  | some info, symbols =>
    (TypedMap.globals info part.name).foldlM (fun contents global =>
      contents.insertMap <$> part.typedMap symbols info global) contents

def addRelocations (part : ReadSection) (contents : Contents) : Contents :=
  { contents with
    relocations := contents.relocations ++ [(part.origin.index, part.origin.relocations)] }

/-- The functions of shared code follow on each other without a gap. The last bytes are the content
from `offset` on. -/
def readShared (part : ReadSection) (starts : List Symbol) (offset : Nat) :
    List UInt8 → Contents → Except Fault Contents
  | [], contents => .ok contents
  | _ :: rest, contents =>
    let address := (part.origin.address + offset) % UInt64.size
    match starts.find? fun symbol => symbol.address = address with
    | none => .error (.unknownSymbol part.origin.index address)
    | some symbol =>
      match symbol.size with
      | 0 => .error (.invalidSymbol symbol.index (symbol.name?.getD ""))
      | size + 1 =>
        match part.code offset (size + 1) with
        | .error fault => .error fault
        | .ok code =>
          readShared part starts (offset + (size + 1)) (rest.drop size)
            (contents.insertRoutine ⟨part.origin.index, address, offset, code⟩)
termination_by rest => rest.length
decreasing_by simp only [List.length_drop, List.length_cons]; omega

def repeated? (seen : List Nat) : List Nat → Option Nat
  | [] => none
  | address :: rest =>
    if seen.contains address then some address else repeated? (address :: seen) rest

def readSharedCode (part : ReadSection) (contents : Contents) : Except Fault Contents := do
  let starts := (contents.symbolsAt part.origin.index).filter fun symbol =>
    symbol.isDefinition && symbol.kind = .code
  match repeated? [] (starts.map (·.address)) with
  | some address => throw (.sharedAddress part.origin.index address)
  | none => part.addRelocations <$> part.readShared starts 0 part.content contents

/-- The address of a program counts from the start of its section. -/
def readProgram (part : ReadSection) (kind : ProgramKind) (contents : Contents)
    (symbol : Symbol) : Except Fault Contents := do
  let name := symbol.name?.getD ""
  let address := symbol.address
  if symbol.kind ≠ .code || name.isEmpty then return contents
  let code ← part.code address symbol.size
  let contents := contents.insertRoutine ⟨part.origin.index, address, address, code⟩
  return contents.insertProgram ⟨name, part.origin.index, address, kind⟩

def readPrograms (part : ReadSection) (contents : Contents) : Except Fault Contents :=
  match ProgramKind.ofName? part.name, contents.symbolsAt part.origin.index with
  | none, _ => .error (.invalidSection part.name)
  | _, [] => .error (.noSymbols part.name)
  | some kind, symbols =>
    part.addRelocations <$> symbols.foldlM (part.readProgram kind) contents

def addTo (part : ReadSection) (contents : Contents) : Except Fault Contents :=
  match SectionKind.ofName part.name with
  | .initialized | .zeroes => .ok (contents.insertMap part.variableMap)
  | .maps => part.readMaps contents
  | .typedMaps => part.readTypedMaps contents
  | .sharedCode => part.readSharedCode contents
  | .unnamed =>
    if part.origin.isCode && part.origin.size > 0 then part.readPrograms contents
    else .ok contents
  | .license | .version | .typeInfo | .lineInfo => .ok contents

end ReadSection

namespace File

def checkNamed (file : File) (name : String) (check : ReadSection → Except Fault Unit) :
    Except Fault Unit :=
  match file.sectionNamed? name with
  | none => .ok ()
  | some part => part.read >>= check

/-- The types that the file describes, if it does. Only then its notes on lines matter. -/
def types? (file : File) : Except Fault (Option TypeInfo) :=
  match file.sectionNamed? SectionKind.typeInfoName with
  | none => .ok none
  | some part => do
    match TypeInfo.ofContent? (← part.read).content with
    | none => throw .invalidTypes
    | some info =>
      file.checkNamed SectionKind.lineInfoName fun notes =>
        if LineInfo.isSound file.order notes.content then .ok () else .error .invalidTypes
      return some info

def contents (file : File) : Except Fault Contents := do
  file.checkNamed "license" ReadSection.checkLicense
  file.checkNamed "version" ReadSection.checkVersion
  if file.symbols.any fun symbol => symbol.name?.isNone then throw .invalidTypes
  let types? ← file.types?
  let seen := [SectionKind.typeInfoName, SectionKind.lineInfoName]
  let rest := file.sections.filter fun part => !part.name?.any seen.contains
  rest.foldlM (fun contents part => do (← part.read).addTo contents)
    { symbols := file.symbols
      sectionNames := file.sections.filterMap Section.name?
      types? := types? }

end File
end RxSteering.Object
