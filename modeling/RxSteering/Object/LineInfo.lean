import RxSteering.Object.TypeInfo

/-!
The notes of an object file on its functions, on its lines and on the places in its code that
depend on the kernel's types. Each part of the notes starts with the size of its records; then come
groups of them, each for one section.
-/
namespace RxSteering.Object.LineInfo

def leastHeaderSize : Nat := 8

def fullHeaderSize : Nat := 32

def header (content : List UInt8) (size : Nat) : List UInt8 :=
  let known := content.take (min size fullHeaderSize)
  known ++ List.replicate (fullHeaderSize - known.length) 0

def part? (content : List UInt8) (headerSize : Nat) (part : ContentPart) :
    Option (List UInt8) := do
  guard (part.size = 0 || 4 ≤ part.size)
  part.bytes? content headerSize

/-- The groups of records, without the name and the count in front of each. Eight bytes and less
are no group. -/
def groups? (recordSize : Nat) (bytes : List UInt8) : Option (List (List UInt8)) :=
  if bytes.length ≤ 8 then some []
  else do
    let size := Bytes.number .littleEndian bytes 4 4 * recordSize
    let records ← Bytes.run? bytes 8 size
    return records :: (← groups? recordSize (bytes.drop (8 + size)))
termination_by bytes.length
decreasing_by simp only [List.length_drop]; omega

def dependencySize : Nat := 16

def dependencies : Nat := 12

def isDependency (record : List UInt8) : Bool :=
  dependencySize ≤ record.length && Bytes.number .littleEndian record 12 4 < dependencies

def dependenciesFit (order : ByteOrder) (part : List UInt8) : Bool :=
  let recordSize := Bytes.number order part 0 4
  (groups? recordSize (part.drop 4)).any fun groups =>
    groups.all fun records => (Bytes.rows recordSize records).all isDependency

def isSound (order : ByteOrder) (content : List UInt8) : Bool :=
  let size := Bytes.number .littleEndian content 4 4
  let known := header content size
  let part? := fun place =>
    part? content (Bytes.number .littleEndian known 4 4) (ContentPart.ofHeader known place)
  leastHeaderSize ≤ content.length && size ≤ content.length &&
    (part? 8).isSome && (part? 16).isSome && (part? 24).any (dependenciesFit order)

end RxSteering.Object.LineInfo
