import RxSteering.Object.File
import RxSteering.Object.MapShape

/-!
The outline of an object file with one program and one map, and the file that it stands for: a
license comes first, the program has a section of code, the map is described in the section for
maps, and the miss action is a variable of its own.
-/
namespace RxSteering.Object

def storedName (name : String) : String := String.ofList (name.toList.takeWhile (· ≠ '\x00'))

structure ProgramOutline where
  name : String
  sectionName : String
  code : List UInt8
  deriving DecidableEq, Repr

structure MapOutline where
  name : String
  mapType : Nat
  entries : Nat
  deriving DecidableEq, Repr

structure GlobalOutline where
  name : String
  size : Nat
  deriving DecidableEq, Repr

structure Outline where
  program? : Option ProgramOutline
  map? : Option MapOutline
  global? : Option GlobalOutline
  deriving DecidableEq, Repr

structure Piece where
  sectionName : String
  symbolName? : Option String
  kind : SymbolKind
  content : List UInt8
  deriving DecidableEq, Repr

namespace Piece

def origin (piece : Piece) (index : Nat) : Section :=
  { index := index
    name? := some (storedName piece.sectionName)
    content? := some piece.content
    size := piece.content.length
    address := 0
    isCode := piece.kind = .code
    relocations := [] }

def symbol? (piece : Piece) (index : Nat) : Option Symbol :=
  piece.symbolName?.map fun name =>
    { index := index
      name? := some (storedName name)
      kind := piece.kind
      isLocal := false
      home? := some index
      isDefinition := true
      address := 0
      size := piece.content.length }

def head : Piece := ⟨"", none, .other, []⟩

def license : Piece := ⟨"license", none, .other, "GPL".toUTF8.toList ++ [0]⟩

end Piece

def ProgramOutline.piece (program : ProgramOutline) : Piece :=
  ⟨program.sectionName, some program.name, .code, program.code⟩

def MapOutline.piece (map : MapOutline) : Piece :=
  ⟨"maps", some map.name, .data, MapShape.toDescription ⟨map.mapType, 4, 4, map.entries, false⟩⟩

def GlobalOutline.piece (global : GlobalOutline) : Piece :=
  ⟨".rodata", some global.name, .data, List.replicate global.size 0⟩

namespace Outline

def pieces (outline : Outline) : List Piece :=
  [Piece.head, Piece.license] ++
    outline.program?.toList.map ProgramOutline.piece ++
    outline.map?.toList.map MapOutline.piece ++
    outline.global?.toList.map GlobalOutline.piece

def toFile (outline : Outline) : File :=
  { table := outline.pieces.zipIdx.map fun (piece, index) => piece.origin index
    symbols := outline.pieces.zipIdx.filterMap fun (piece, index) => piece.symbol? index }

end Outline
end RxSteering.Object
