import RxSteering.Text.Inspect

/-!
What makes an object file unfit to be loaded. A file is read before its types are given to the
kernel, then its maps are made, and its functions are linked after that.
-/
namespace RxSteering.Object

open Text

inductive Fault where
  | notElf
  | invalidLicense (content : List UInt8)
  | unterminatedLicense (content : List UInt8)
  | invalidVersion (content : List UInt8)
  | unreadableSection (index : Nat)
  | unsupportedTarget
  | invalidSection (name : String)
  | invalidCode
  | invalidMap (name : String)
  | sharedAddress (sectionIndex address : Nat)
  | unknownSymbol (sectionIndex address : Nat)
  | invalidSymbol (index : Nat) (name : String)
  | noSymbols (sectionName : String)
  | invalidTypes
  | missingTypes
  | unreadableName (offset : Nat)
  | unknownType (number : Nat)
  | noGlobal
  | missingSize (sectionName : String)
  | missingPlace (symbol : String)
  | missingSymbol (symbol : String)
  | symbolSize (symbol : String) (size given : Nat)
  | missingMap (sectionIndex : Nat)
  | invalidMapType (mapType : Nat)
  | unsupportedMapType (mapType : Nat)
  | mapCreation (map : String)
  | mapPinning (map : String)
  | unlinkable
  deriving DecidableEq, Repr

namespace Fault

def contentText (content : List UInt8) : String := inspect (content.map UInt8.toNat)

def addressText (address : Nat) : String :=
  "0x" ++ String.ofList ((Nat.toDigits 16 address).map Char.toUpper)

def parsing (reason : String) : String := "error parsing BPF object: " ++ reason

def typing (reason : String) : String := "BTF error: " ++ reason

def mapping (reason : String) : String := "map error: " ++ reason

def message : Fault → String
  | notElf => parsing "error parsing ELF data"
  | invalidLicense content => parsing s!"invalid license `{contentText content}`"
  | unterminatedLicense content =>
    parsing s!"invalid license `{contentText content}`: missing NULL terminator"
  | invalidVersion content => parsing s!"invalid kernel version `{contentText content}`"
  | unreadableSection index => parsing s!"error parsing section with index {index}"
  | unsupportedTarget => parsing "unsupported relocation target"
  | invalidSection name => parsing s!"invalid program section `{name}`"
  | invalidCode => parsing "invalid program code"
  | invalidMap name => parsing s!"error parsing map `{name}`"
  | sharedAddress index address =>
    parsing <| s!"two or more symbols in section `{index}` have the same address " ++
      addressText address
  | unknownSymbol index address =>
    parsing s!"unknown symbol in section `{index}` at address {addressText address}"
  | invalidSymbol index name => parsing s!"invalid symbol, index `{index}` name: {name}"
  | noSymbols name => parsing s!"no symbols found in the {name} section"
  | invalidTypes => parsing "BTF error"
  | missingTypes => parsing "no BTF parsed for object"
  | unreadableName offset => typing s!"invalid BTF string offset: {offset}"
  | unknownType number => typing s!"Unknown BTF type id `{number}`"
  | noGlobal => typing "BTF type that is not VAR was found in DATASEC"
  | missingSize name => typing s!"Unable to determine the size of section `{name}`"
  | missingPlace symbol => typing s!"Offset not found for symbol `{symbol}`"
  | missingSymbol symbol =>
    parsing s!"symbol with name {symbol} not found in the symbols table"
  | symbolSize symbol size given =>
    parsing s!"symbol {symbol} has size `{size}`, but provided data is of size `{given}`"
  | missingMap index => parsing s!"map for section with index {index} not found"
  | invalidMapType mapType => mapping s!"invalid map type {mapType}"
  | unsupportedMapType mapType => mapping s!"Unsupported map type found {mapType}"
  | mapCreation map => mapping s!"failed to create map `{map}` with code -1"
  | mapPinning map =>
    mapping s!"map `{inspect (some map)}` requested pinning. pinning failed"
  | unlinkable => "error relocating function"

end Fault
end RxSteering.Object
