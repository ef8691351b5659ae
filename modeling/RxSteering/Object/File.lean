import RxSteering.Object.Fault
import RxSteering.Object.Section

/-!
The parts of an object file: its sections with their names, contents and relocations, and its
symbols. A name or a content that cannot be read is missing, and only who asks for it is told; a
table of symbols, or of relocations, that cannot be found makes the bytes no object file.
-/
namespace RxSteering.Object

structure File where
  order : ByteOrder := .littleEndian
  /-- every entry of the table of sections, of which the first is no section -/
  table : List Section
  symbols : List Symbol
  deriving DecidableEq, Repr

namespace File

def sections (file : File) : List Section := file.table.drop 1

def sectionNamed? (file : File) (name : String) : Option Section :=
  file.table.find? fun part => part.name? = some name

def entries? (header : Header) (bytes : List UInt8) : Option (List SectionEntry) :=
  if header.sections.offset = 0 then some []
  else do
    let count ← header.sectionCount? bytes
    let table ← Bytes.run? bytes header.sections.offset (count * header.sectionSize)
    return (Bytes.rows header.sectionSize table).map (SectionEntry.ofRow header)

def names? (header : Header) (bytes : List UInt8) (entries : List SectionEntry) :
    Option NameTable :=
  if entries.isEmpty then some {}
  else do
    let entry ← entries[← header.nameSection? bytes]?
    if entry.kind = SectionEntry.emptyKind then some {} else entry.nameTable?

def remoteHomes? (header : Header) (bytes : List UInt8) (entries : List SectionEntry)
    (table : Nat) : Option (List Nat) := do
  let homes := entries.filter fun entry =>
    entry.kind = SectionEntry.homeKind && entry.link = table
  let rows ← homes.mapM fun entry => entry.rows? bytes 4 4
  return (rows.getLast?.getD []).map header.order.number

/-- The index of the first table of a kind, and the symbols in it. The first row of a table is no
symbol. -/
def symbolTable? (header : Header) (bytes : List UInt8) (entries : List SectionEntry)
    (kind : Nat) : Option (Nat × List Symbol) :=
  match entries.zipIdx.find? fun (entry, _) => entry.kind = kind with
  | none => some (0, [])
  | some (entry, table) => do
    let rows ← entry.rows? bytes header.wordSize (Symbol.rowSize header)
    let names ← SectionEntry.linkedNames? entries entry.link
    let remoteHomes ← remoteHomes? header bytes entries table
    return (table, (rows.zipIdx.drop 1).map fun (row, index) =>
      Symbol.ofRow header bytes names remoteHomes index row)

/-- Sections of relocations for one section form a chain that starts at it: each section has the
number of the next one, or zero. Relocations for no section are left out, and there are none for
relocations. -/
def relocationChains? (entries : List SectionEntry) (symbolTable : Nat) : Option (List Nat) :=
  entries.zipIdx.reverse.foldlM (fun next (entry, index) =>
    if entry.hasRelocations && entry.link = symbolTable && entry.info ≠ 0 then do
      let place ← entries[entry.info]?
      guard !place.hasRelocations
      return (next.set entry.info index).set index (next[entry.info]?.getD 0)
    else some next) (List.replicate entries.length 0)

def chain (next : List Nat) : (bound : Nat) → (index : Nat) → List Nat
  | 0, _ => []
  | bound + 1, index =>
    match next[index]?.getD 0 with
    | 0 => []
    | follower => follower :: chain next bound follower

def ofBytes? (bytes : List UInt8) : Option File := do
  let header ← Header.ofBytes? bytes
  guard (header.isSound bytes)
  let entries ← entries? header bytes
  let names ← names? header bytes entries
  let (table, symbols) ← symbolTable? header bytes entries SectionEntry.symbolKind
  let _ ← symbolTable? header bytes entries SectionEntry.dynamicSymbolKind
  let next ← relocationChains? entries table
  let sections := entries.zipIdx.map fun (entry, index) =>
    { index := index
      name? := names.name? bytes entry.nameOffset
      content? := entry.content? bytes
      size := entry.size
      address := entry.address
      isCode := entry.isCode
      relocations := (chain next next.length index).flatMap fun follower =>
        (entries[follower]?.map fun entry => entry.relocations header bytes).getD [] }
  return { order := header.order, table := sections, symbols := symbols }

def ofBytes (bytes : List UInt8) : Except Fault File :=
  match ofBytes? bytes with
  | some file => .ok file
  | none => .error .notElf

end File
end RxSteering.Object
