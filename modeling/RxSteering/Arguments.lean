import RxSteering.Text.Pieces

/-!
Command line arguments made of options only. An option is written `--name value`,
`--name=value`, `-n value`, `-nvalue` or `-n=value`, and options without a value may share one
dash; a value on its own may not look like an option. The arguments are read from left to right,
and the first that misuses an option or asks for information ends the reading.
-/
namespace RxSteering

inductive OptionKind where
  /-- no value: the option is given or not -/
  | flag
  /-- no value: the user is told about the command instead of running it -/
  | information
  | text
  /-- the name of a file, which is never empty -/
  | path
  | word
  /-- numbers of 32 bits between commas, in any number of uses -/
  | words
  | longWord
  deriving DecidableEq, Repr

structure OptionSpec where
  name : String
  letter? : Option Char := none
  kind : OptionKind := .text
  deriving DecidableEq, Repr

structure OptionUse where
  name : String
  value : String
  deriving DecidableEq, Repr

namespace Arguments

inductive Refusal where
  | informed
  | misused
  deriving DecidableEq, Repr

/-- Being informed is a success. -/
def Refusal.exit : Refusal → Nat
  | informed => 0
  | misused => 2

def informationOptions : List OptionSpec :=
  [{ name := "help", letter? := some 'h', kind := .information },
    { name := "version", letter? := some 'V', kind := .information }]

/-! ## Numbers -/

def decimal? (digits : List Char) : Option Nat :=
  if digits.isEmpty || !digits.all Char.isDigit then none
  else some (digits.foldl (fun n digit => 10 * n + (digit.toNat - '0'.toNat)) 0)

def unsigned? (text : String) : Option Nat :=
  match text.toList with
  | '+' :: digits => decimal? digits
  | digits => decimal? digits

def signed? (text : String) : Option Int :=
  match text.toList with
  | '-' :: digits => (decimal? digits).map fun n => -(n : Int)
  | _ => (unsigned? text).map fun n => (n : Int)

/-- A number of 32 bits is read with its sign and must then be in range. -/
def word? (text : String) : Option UInt32 :=
  (signed? text).bind fun n => if 0 ≤ n ∧ n < UInt32.size then some (UInt32.ofNat n.toNat) else none

def longWord? (text : String) : Option UInt64 :=
  (unsigned? text).bind fun n => if n < UInt64.size then some (UInt64.ofNat n) else none

def words? (text : String) : Option (List UInt32) :=
  (Text.pieces ',' text.toList).mapM fun piece => word? (String.ofList piece)

end Arguments

namespace OptionKind

def takesValue : OptionKind → Bool
  | flag | information => false
  | text | path | word | words | longWord => true

def isRepeatable : OptionKind → Bool
  | words => true
  | _ => false

def accepts (kind : OptionKind) (value : String) : Bool :=
  match kind with
  | flag | information | text => true
  | path => !value.isEmpty
  | word => (Arguments.word? value).isSome
  | words => (Arguments.words? value).isSome
  | longWord => (Arguments.longWord? value).isSome

end OptionKind

namespace Arguments

/-! ## Uses of options -/

def values (uses : List OptionUse) (name : String) : List String :=
  (uses.filter fun use => use.name = name).map OptionUse.value

def isGiven (uses : List OptionUse) (name : String) : Bool := !(values uses name).isEmpty

def valueOr (uses : List OptionUse) (name fallback : String) : String :=
  (values uses name).headD fallback

def readOr {α : Type} (read? : String → Option α) (uses : List OptionUse) (name : String)
    (fallback : α) : α :=
  ((values uses name).head?.bind read?).getD fallback

/-! ## Reading -/

inductive Shape where
  /-- two dashes alone: no options follow -/
  | terminator
  | plain
  | long (name : String) (value? : Option String)
  | letters (letters : List Char)
  deriving DecidableEq, Repr

def splitAtEquals (text : List Char) : String × Option String :=
  let (before, after) := text.span (· ≠ '=')
  (String.ofList before, after.tail?.map String.ofList)

def shape (argument : String) : Shape :=
  match argument.toList with
  | ['-', '-'] => .terminator
  | '-' :: '-' :: rest => let (name, value?) := splitAtEquals rest; .long name value?
  | '-' :: letter :: rest => .letters (letter :: rest)
  | _ => .plain

def attached? : List Char → Option String
  | [] => none
  | '=' :: rest => some (String.ofList rest)
  | rest => some (String.ofList rest)

structure Progress where
  uses : List OptionUse := []
  /-- the option that the next argument is the value of -/
  awaiting? : Option OptionSpec := none
  /-- whether the options are over -/
  closed : Bool := false
  deriving DecidableEq, Repr

namespace Progress

def add (progress : Progress) (spec : OptionSpec) (value : String) : Except Refusal Progress :=
  if spec.kind = .information then .error .informed
  else if !spec.kind.accepts value then .error .misused
  else if !spec.kind.isRepeatable && isGiven progress.uses spec.name then .error .misused
  else .ok { progress with uses := progress.uses ++ [⟨spec.name, value⟩], awaiting? := none }

def takeNamed (progress : Progress) (specs : List OptionSpec) (name : String)
    (value? : Option String) : Except Refusal Progress :=
  match specs.find? fun spec => spec.name = name with
  | none => .error .misused
  | some spec =>
    match value? with
    | some value => if spec.kind.takesValue then progress.add spec value else .error .misused
    | none =>
      if spec.kind.takesValue then .ok { progress with awaiting? := some spec }
      else progress.add spec ""

/-- Takes the options of one dash. The first that has a value takes all that is left for it. -/
def takeLetters (progress : Progress) (specs : List OptionSpec) :
    List Char → Except Refusal Progress
  | [] => .ok progress
  | letter :: rest =>
    match specs.find? fun spec => spec.letter? = some letter with
    | none => .error .misused
    | some spec =>
      if spec.kind.takesValue then
        match attached? rest with
        | some value => progress.add spec value
        | none => .ok { progress with awaiting? := some spec }
      else
        match progress.add spec "" with
        | .ok after => after.takeLetters specs rest
        | .error refusal => .error refusal

def take (specs : List OptionSpec) (progress : Progress) (argument : String) :
    Except Refusal Progress :=
  match progress.closed, progress.awaiting?, shape argument with
  | false, some spec, .plain => progress.add spec argument
  | false, none, .terminator => .ok { progress with closed := true }
  | false, none, .long name value? => progress.takeNamed specs name value?
  | false, none, .letters letters => progress.takeLetters specs letters
  | _, _, _ => .error .misused

end Progress

/-- The uses of the options, in order. Every command has the options that inform about it. -/
def read (specs : List OptionSpec) (arguments : List String) : Except Refusal (List OptionUse) :=
  match arguments.foldlM (Progress.take (specs ++ informationOptions)) {} with
  | .error refusal => .error refusal
  | .ok progress => if progress.awaiting?.isSome then .error .misused else .ok progress.uses

end Arguments
end RxSteering
