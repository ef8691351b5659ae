import RxSteering.Bytes

/-!
The header that an object file starts with: the class and the byte order of the file, the machine
that its code is for, and where its table of program segments and its table of sections stand. A
header is sound if what it says of the two tables is true of the file.
-/
namespace RxSteering.Object

structure HeaderTable where
  offset : Nat
  entrySize : Nat
  count : Nat
  deriving DecidableEq, Repr

structure Header where
  /-- the bytes of an address: four or eight -/
  wordSize : Nat
  order : ByteOrder
  /-- the number of the machine -/
  machine : Nat
  segments : HeaderTable
  sections : HeaderTable
  /-- the section that holds the names of the sections -/
  nameSection : Nat
  deriving DecidableEq, Repr

namespace Header

def magic : List UInt8 := [0x7f, 0x45, 0x4c, 0x46]

def wordSizeOf? (fileClass : UInt8) : Option Nat :=
  if fileClass = 1 then some 4 else if fileClass = 2 then some 8 else none

def orderOf? (encoding : UInt8) : Option ByteOrder :=
  if encoding = 1 then some .littleEndian else if encoding = 2 then some .bigEndian else none

def ofBytes? (bytes : List UInt8) : Option Header := do
  guard (magic.isPrefixOf bytes && bytes[6]? = some 1)
  let wordSize ← bytes[4]?.bind wordSizeOf?
  let order ← bytes[5]?.bind orderOf?
  let segmentsOffset ← Bytes.number? order bytes (24 + wordSize) wordSize
  let sectionsOffset ← Bytes.number? order bytes (24 + 2 * wordSize) wordSize
  let half (offset : Nat) := Bytes.number? order bytes (30 + 3 * wordSize + offset) 2
  return {
    wordSize := wordSize
    order := order
    machine := ← Bytes.number? order bytes 18 2
    segments := ⟨segmentsOffset, ← half 0, ← half 2⟩
    sections := ⟨sectionsOffset, ← half 4, ← half 6⟩
    nameSection := ← half 8 }

def segmentSize (header : Header) : Nat := 8 + 6 * header.wordSize

def sectionSize (header : Header) : Nat := 16 + 6 * header.wordSize

def isInside (header : Header) (bytes : List UInt8) (table : HeaderTable)
    (entrySize : Nat) : Bool :=
  table.entrySize = entrySize && table.offset % header.wordSize = 0 &&
    table.offset + table.count * entrySize ≤ bytes.length

/-- A field of the first section, where a number stands that the header has no room for. -/
def overflow? (header : Header) (bytes : List UInt8) (offset size : Nat) : Option Nat :=
  if header.sections.offset ≠ 0 &&
      header.isInside bytes { header.sections with count := 1 } header.sectionSize then
    Bytes.number? header.order bytes (header.sections.offset + offset) size
  else none

def segmentCount? (header : Header) (bytes : List UInt8) : Option Nat :=
  if header.segments.count = 0xffff then header.overflow? bytes (12 + 4 * header.wordSize) 4
  else some header.segments.count

def sectionCount? (header : Header) (bytes : List UInt8) : Option Nat :=
  if header.sections.count = 0 then
    header.overflow? bytes (8 + 3 * header.wordSize) header.wordSize
  else some header.sections.count

def nameSection? (header : Header) (bytes : List UInt8) : Option Nat :=
  if header.nameSection = 0xffff then header.overflow? bytes (8 + 4 * header.wordSize) 4
  else some header.nameSection

/-- A table at offset zero is no table, and where a table without entries stands does not matter. -/
def segmentsFit (header : Header) (bytes : List UInt8) : Bool :=
  header.segments.offset = 0 ||
    (header.segmentCount? bytes).any fun count =>
      count = 0 ||
        header.isInside bytes { header.segments with count := count } header.segmentSize

def sectionsFit (header : Header) (bytes : List UInt8) : Bool :=
  header.sections.offset = 0 ||
    (header.sectionCount? bytes).any fun count =>
      count = 0 ||
        (header.isInside bytes { header.sections with count := count } header.sectionSize &&
          (header.nameSection? bytes).any fun index => 0 < index && index < count)

def isSound (header : Header) (bytes : List UInt8) : Bool :=
  header.segmentsFit bytes && header.sectionsFit bytes

end Header
end RxSteering.Object
