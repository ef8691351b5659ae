import RxSteering.Object.Relocation
import RxSteering.Object.Symbol

/-!
The sections of an object file, as its table of sections tells of them. The first entry of the
table is no section, but it has a name like the others.
-/
namespace RxSteering.Object

structure Section where
  index : Nat
  name? : Option String
  content? : Option (List UInt8)
  /-- larger than the content if the section only takes up memory -/
  size : Nat
  address : Nat
  isCode : Bool
  relocations : List Relocation
  deriving DecidableEq, Repr

structure SectionEntry where
  nameOffset : Nat
  kind : Nat
  flags : Nat
  address : Nat
  offset : Nat
  size : Nat
  link : Nat
  info : Nat
  deriving DecidableEq, Repr

namespace SectionEntry

def programKind : Nat := 1
def symbolKind : Nat := 2
def nameKind : Nat := 3
def addendKind : Nat := 4
def emptyKind : Nat := 8
def relocationKind : Nat := 9
def dynamicSymbolKind : Nat := 11
def homeKind : Nat := 18

def ofRow (header : Header) (row : List UInt8) : SectionEntry :=
  let number := Bytes.number header.order row
  let w := header.wordSize
  { nameOffset := number 0 4
    kind := number 4 4
    flags := number 8 w
    address := number (8 + w) w
    offset := number (8 + 2 * w) w
    size := number (8 + 3 * w) w
    link := number (8 + 4 * w) 4
    info := number (12 + 4 * w) 4 }

/-- A section may take up memory without a byte in the file. -/
def content? (entry : SectionEntry) (bytes : List UInt8) : Option (List UInt8) :=
  if entry.kind = emptyKind then some [] else Bytes.run? bytes entry.offset entry.size

def rows? (entry : SectionEntry) (bytes : List UInt8) (alignment size : Nat) :
    Option (List (List UInt8)) := do
  let content ← entry.content? bytes
  guard (entry.offset % alignment = 0)
  return Bytes.rows size content

def hasFlag (entry : SectionEntry) (flag : Nat) : Bool := entry.flags / flag % 2 = 1

def memoryFlag : Nat := 2

def codeFlag : Nat := 4

def isCode (entry : SectionEntry) : Bool :=
  entry.kind = programKind && entry.hasFlag memoryFlag && entry.hasFlag codeFlag

def hasRelocations (entry : SectionEntry) : Bool :=
  entry.kind = relocationKind || entry.kind = addendKind

def nameTable? (entry : SectionEntry) : Option NameTable :=
  let stop := entry.offset + entry.size
  if stop < UInt64.size then some ⟨entry.offset, stop⟩ else none

def linkedNames? (entries : List SectionEntry) (link : Nat) : Option NameTable :=
  if link = 0 then some {}
  else (entries[link]?.filter fun entry => entry.kind = nameKind).bind nameTable?

def relocations (entry : SectionEntry) (header : Header) (bytes : List UInt8) :
    List Relocation :=
  let words := if entry.kind = addendKind then 3 else 2
  let rows := (entry.rows? bytes header.wordSize (words * header.wordSize)).getD []
  rows.map (Relocation.ofRow header)

end SectionEntry
end RxSteering.Object
