import RxSteering.Object.Header

/-!
The symbols of an object file: names for places in its sections, and for some that are elsewhere.
-/
namespace RxSteering.Object

structure NameTable where
  start : Nat := 0
  stop : Nat := 0
  deriving DecidableEq, Repr

def NameTable.name? (names : NameTable) (bytes : List UInt8) (offset : Nat) : Option String :=
  Bytes.text? bytes (names.start + offset) names.stop

inductive SymbolKind where
  | code
  | data
  | ofSection
  | other
  deriving DecidableEq, Repr

structure Symbol where
  index : Nat
  name? : Option String
  kind : SymbolKind
  /-- whether no other file knows the symbol -/
  isLocal : Bool
  /-- the section that the symbol stands in -/
  home? : Option Nat
  isDefinition : Bool
  address : Nat
  size : Nat
  deriving DecidableEq, Repr

namespace Symbol

def rowSize (header : Header) : Nat := 8 + 2 * header.wordSize

/-- A home from here on is none, except `remoteHome`. -/
def reservedHomes : Nat := 0xff00

/-- Stands for a home that is too large for its field. -/
def remoteHome : Nat := 0xffff

def kindOf (code : Nat) : SymbolKind :=
  if code = 2 ∨ code = 10 then .code
  else if code = 1 ∨ code = 5 then .data
  else if code = 3 then .ofSection
  else .other

def isDefinedAt (home code size : Nat) : Bool :=
  home ≠ 0 && (home < reservedHomes || home = remoteHome) &&
    (code = 1 || code = 2 || (code = 0 && size ≠ 0))

def homeOf? (remoteHome? : Option Nat) (field : Nat) : Option Nat :=
  if field = remoteHome then remoteHome?.filter (· ≠ 0)
  else if field = 0 || field ≥ reservedHomes then none
  else some field

def ofRow (header : Header) (bytes : List UInt8) (names : NameTable) (remoteHomes : List Nat)
    (index : Nat) (row : List UInt8) : Symbol :=
  let number := Bytes.number header.order row
  let w := header.wordSize
  let (rest, numbers) := if w = 8 then (4, 8) else (12, 4)
  let info := number rest 1
  let code := info % 16
  let home := number (rest + 2) 2
  let size := number (numbers + w) w
  { index := index
    name? := names.name? bytes (number 0 4)
    kind := kindOf code
    isLocal := info / 16 = 0
    home? := homeOf? remoteHomes[index]? home
    isDefinition := isDefinedAt home code size
    address := number numbers w
    size := size }

def isPlaced (symbol : Symbol) : Bool := !symbol.isLocal || symbol.kind = .data

end Symbol
end RxSteering.Object
