import RxSteering.Object.Contents

/-!
Functions of an object are put together in two steps. First each place that refers to a map is made
to stand for it, which changes the instruction there and maybe the next one. Then every call that a
program can get to has to lead to a function.
-/
namespace RxSteering.Object.Contents

/-- Of two relocations at one place the later one counts. -/
def latest : List Relocation → List Relocation
  | [] => []
  | relocation :: rest =>
    if rest.any fun other => other.offset = relocation.offset then latest rest
    else relocation :: latest rest

def relocationsAt (contents : Contents) (home : Nat) : List Relocation :=
  latest ((contents.relocations.lookup home).getD [])

def symbol? (contents : Contents) (index : Nat) : Option Symbol :=
  contents.symbols.find? fun symbol => symbol.index = index

def holdsRoutines (contents : Contents) (home : Nat) : Bool :=
  contents.routines.any fun routine => routine.home = home

def mapOf? (contents : Contents) (symbol : Symbol) (home : Nat) : Option Map :=
  (contents.maps.find? fun map => map.symbol? = some symbol.index) <|>
    contents.maps.find? fun map => map.home = home

/-- Makes an instruction stand for a map. If the map has variables, the instruction stands for one
of them, and the number of the next one tells which. -/
def standFor (map : Map) (address : Nat) (index : Nat) (code : List Instruction) :
    List Instruction :=
  if map.content.size = 0 then code.modify index (·.withMap Instruction.ownSource)
  else
    let operand? := (code[index]?.bind Instruction.operand?).map fun operand =>
      Instruction.signed (operand + address)
    (code.modify index (·.withMap Instruction.variableSource)).modify (index + 1)
      fun next => { next with operand? := operand? }

/-- Makes the instruction at the place of a relocation stand for the map that it refers to, if
there is one. Calls, and what refers to a function or to nothing in the file, stay. -/
def referAt? (contents : Contents) (routine : Routine) (code : List Instruction)
    (relocation : Relocation) : Option (List Instruction) := do
  let place := relocation.offset - routine.offset
  let index := place / Instruction.size
  guard (place % Instruction.size = 0)
  let symbol ← relocation.symbol?.bind contents.symbol?
  match symbol.home? with
  | none => return code
  | some home =>
    if code[index]?.any Instruction.isCall || contents.holdsRoutines home then return code
    else return standFor (← contents.mapOf? symbol home) symbol.address index code

def referRoutine? (contents : Contents) (routine : Routine) : Option Routine := do
  let stop := routine.offset + routine.code.length * Instruction.size
  let inside := (contents.relocationsAt routine.home).filter fun relocation =>
    routine.offset ≤ relocation.offset && relocation.offset < stop
  return { routine with code := ← inside.foldlM (contents.referAt? routine) routine.code }

def refer? (contents : Contents) : Option Contents := do
  return { contents with routines := ← contents.routines.mapM contents.referRoutine? }

def target? (contents : Contents) (home offset : Nat) : Option (Symbol × RelocationForm) := do
  let relocation ← (contents.relocationsAt home).find? fun other => other.offset = offset
  let symbol ← contents.symbol? (← relocation.symbol?)
  guard (symbol.kind = .code || symbol.home?.any contents.holdsRoutines)
  return (symbol, relocation.form)

def callAddress (start : Nat) (operand : Int) : Int :=
  start + Instruction.signed (operand + 1) * Instruction.size

def targetAddress? (symbol : Symbol) (form : RelocationForm) (instruction : Instruction) :
    Option Int :=
  match symbol.kind, form with
  | .code, _ => some symbol.address
  | .ofSection, .short => instruction.operand?.map (callAddress symbol.address)
  | .ofSection, .long => instruction.operand?.map (symbol.address + ·)
  | _, _ => none

def callee? (contents : Contents) (home : Nat) (address : Int) : Option Routine :=
  contents.routineAt? home (address % UInt64.size).toNat

def callAt (contents : Contents) (routine : Routine) (instruction : Instruction) (index : Nat) :
    Option (Option Routine) :=
  let offset := routine.offset + index * Instruction.size
  match contents.target? routine.home offset with
  | some (symbol, form) => some do
    contents.callee? (← symbol.home?) (← targetAddress? symbol form instruction)
  | none =>
    if instruction.isCall then some do
      contents.callee? routine.home (callAddress offset (← instruction.operand?))
    else none

def callees (contents : Contents) (routine : Routine) : List (Option Routine) :=
  routine.code.zipIdx.filterMap fun (instruction, index) =>
    contents.callAt routine instruction index

/-- The addresses of all that a function calls, directly or not, added to those linked before. A
function is linked once, so that `depth` need not be larger than their number. -/
def link? (contents : Contents) : (depth : Nat) → List Nat → Routine → Option (List Nat)
  | 0, linked, _ => some linked
  | depth + 1, linked, routine =>
    (contents.callees routine).foldlM (fun linked callee? => do
      let callee ← callee?
      if linked.contains callee.address then return linked
      else contents.link? depth (callee.address :: linked) callee) linked

def callsFound (contents : Contents) : Bool :=
  contents.programs.all fun program =>
    ((contents.routineAt? program.home program.address).bind
      (contents.link? (contents.routines.length + 1) [])).isSome

def linked? (contents : Contents) : Option Contents :=
  contents.refer?.filter callsFound

end RxSteering.Object.Contents
