import RxSteering.Arguments
import RxSteering.Machine

/-!
The command that puts the classifier on an interface, unbinds queues that an earlier owner left
bound, holds it until it is told to stop and takes it off again.
-/
namespace RxSteering

open Text

structure Output where
  exit : Nat := 0
  stdout : List String := []
  stderr : List String := []
  deriving DecidableEq, Repr

def Output.failure (stdout : List String) (error : Error) : Output :=
  { exit := 1, stdout := stdout, stderr := ["Error: " ++ inspect error] }

structure AttachCommand where
  interface : String
  object : String
  miss : String
  mode : String
  unbind : List UInt32
  deriving DecidableEq, Repr

namespace AttachCommand

def options : List OptionSpec :=
  [{ name := "interface", letter? := some 'i' }, { name := "object", kind := .path },
    { name := "miss" }, { name := "mode" }, { name := "unbind", kind := .words }]

def ofArguments (arguments : List String) : Except Arguments.Refusal AttachCommand := do
  let uses ← Arguments.read options arguments
  match (Arguments.values uses "object").head? with
  | none => throw .misused
  | some object =>
    return {
      interface := Arguments.valueOr uses "interface" "lo"
      object := object
      miss := Arguments.valueOr uses "miss" "drop"
      mode := Arguments.valueOr uses "mode" "auto"
      unbind := ((Arguments.values uses "unbind").filterMap Arguments.words?).flatten }

def unbindAll (program : LoadedProgram) : List UInt32 → List String × Except Error LoadedProgram
  | [] => ([], .ok program)
  | queue :: rest =>
    match program.delete ⟨queue⟩ with
    | .error error => ([], .error error)
    | .ok (removed, _, after) =>
      let (lines, result) := unbindAll after rest
      let what := if removed then "unbound" else "was not bound"
      (s!"queue {queue.toNat}: {what}" :: lines, result)

def settings (command : AttachCommand) : Except Error Settings := do
  let miss ← MissPolicy.parse command.miss
  let mode ← AttachMode.parse command.mode
  let settings : Settings := { interface := command.interface, miss := miss, mode := mode }
  settings.validate
  return settings

def attached (command : AttachCommand) (machine : Machine) (settings : Settings) :
    Except Error (UInt32 × LoadedProgram) := do
  let index ← machine.interfaceIndex settings.interface
  let (_, program) ← machine.loadFile command.object settings.programOptions
  let (result, _, program) := program.attach index (machine.accepts program.place index)
  result
  return (index, program)

def steeringLine (settings : Settings) (index : UInt32) (program : LoadedProgram) : String :=
  s!"steering {program.capacity.toNat} queues on {settings.interface} " ++
    s!"(if_index {index.toNat}), miss policy {settings.miss.text}, mode {settings.mode.text}"

def privilegeHint : String := "run with: sudo -E cargo run --example attach -- <args>"

/-- The whole command on a machine where it is told to stop as soon as it holds the program. -/
def run (command : AttachCommand) (machine : Machine) : Output :=
  match command.settings with
  | .error error => .failure [] error
  | .ok settings =>
    match machine.raiseCapabilities with
    | .error error => { exit := 1, stderr := [error.message, privilegeHint] }
    | .ok _ =>
      match command.attached machine settings with
      | .error error => .failure [] error
      | .ok (index, program) =>
        match unbindAll program command.unbind with
        | (lines, .error error) => .failure lines error
        | (lines, .ok program) =>
          { stdout := lines ++ [steeringLine settings index program,
              s!"detached from {settings.interface}"] }

end AttachCommand
end RxSteering
