import RxSteering.Object.Header

/-!
Relocations: the places in a section that refer to a symbol. How many bits such a place has, the
machine of the file says by the code of the relocation.
-/
namespace RxSteering.Object

inductive RelocationForm where
  /-- of 64 bits -/
  | long
  /-- of 32 bits -/
  | short
  | other
  deriving DecidableEq, Repr

structure RelocationCodes where
  long : List Nat
  short : List Nat
  deriving DecidableEq, Repr

namespace RelocationCodes

def ofMachines : List (Nat × RelocationCodes) :=
  [(2, ⟨[], [3, 23]⟩), (3, ⟨[], [1, 2, 3, 4, 9, 10]⟩), (4, ⟨[], [1, 4, 7, 10, 13, 16]⟩),
    (8, ⟨[18], [2]⟩), (15, ⟨[], [1, 9]⟩), (18, ⟨[], [3, 23]⟩), (20, ⟨[], [1]⟩),
    (21, ⟨[38], [1]⟩), (22, ⟨[14, 22, 23, 24, 28], [4, 5, 7, 13, 19, 20, 21, 26]⟩),
    (40, ⟨[], [2]⟩), (42, ⟨[], [1, 2]⟩), (43, ⟨[32, 54], [3, 23]⟩),
    (62, ⟨[1], [2, 3, 4, 9, 10, 11]⟩), (83, ⟨[], [1]⟩), (94, ⟨[], [1, 14]⟩),
    (105, ⟨[], [1]⟩), (133, ⟨[], [12, 13]⟩), (164, ⟨[], [6]⟩),
    (175, ⟨[50, 51], [0, 108]⟩), (183, ⟨[257, 260], [258, 261]⟩), (243, ⟨[2], [1]⟩),
    (247, ⟨[1], [10]⟩), (252, ⟨[], [1, 5]⟩), (258, ⟨[2, 109], [1, 99]⟩),
    (263, ⟨[1], [10]⟩), (0x9026, ⟨[2, 11], [1, 10]⟩)]

def form (codes : RelocationCodes) (code : Nat) : RelocationForm :=
  if codes.long.contains code then .long
  else if codes.short.contains code then .short
  else .other

end RelocationCodes

structure Relocation where
  offset : Nat
  symbol? : Option Nat
  form : RelocationForm
  deriving DecidableEq, Repr

namespace Relocation

/-- The machine whose long words have a symbol in their first half, whatever the byte order. -/
def symbolFirstMachine : Nat := 8

def isSymbolFirst (header : Header) : Bool :=
  header.wordSize = 8 && header.order = .littleEndian && header.machine = symbolFirstMachine

def partsOfWord (header : Header) (word : List UInt8) : Nat × Nat :=
  if isSymbolFirst header then
    (ByteOrder.littleEndian.number (word.take 4), ByteOrder.bigEndian.number (word.drop 4))
  else
    let codes := if header.wordSize = 8 then UInt32.size else UInt8.size
    let n := header.order.number word
    (n / codes, n % codes)

def ofRow (header : Header) (row : List UInt8) : Relocation :=
  let size := header.wordSize
  let (symbol, code) := partsOfWord header ((row.drop size).take size)
  { offset := Bytes.number header.order row 0 size
    symbol? := if symbol = 0 then none else some symbol
    form := ((RelocationCodes.ofMachines.lookup header.machine).getD ⟨[], []⟩).form code }

end Relocation
end RxSteering.Object
