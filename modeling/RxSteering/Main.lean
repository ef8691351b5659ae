import RxSteering.AttachCommand
import RxSteering.SimulationCommand

/-!
The command line: `attach` puts the classifier on an interface, `simulate` runs the simulation.
-/
namespace RxSteering.Main

def usage : String := "usage: attach --object PATH [OPTIONS] | simulate [OPTIONS]"

def write (output : Output) : IO UInt32 := do
  output.stdout.forM IO.println
  output.stderr.forM IO.eprintln
  return UInt32.ofNat output.exit

def refuse (refusal : Arguments.Refusal) : IO UInt32 :=
  write <| match refusal with
    | .informed => { exit := refusal.exit, stdout := [usage] }
    | .misused => { exit := refusal.exit, stderr := [usage] }

def machineWith (path : String) : IO Machine := do
  match ← (IO.FS.readBinFile path).toBaseIO with
  | .ok bytes => return { files := ⟨[(path, Object.File.ofBytes bytes.toList)]⟩ }
  | .error _ => return {}

def attach (arguments : List String) : IO UInt32 := do
  match AttachCommand.ofArguments arguments with
  | .error refusal => refuse refusal
  | .ok command => write (command.run (← machineWith command.object))

def newLines (before after : Simulation) : List String :=
  (after.lines.drop before.lines.length).map SimulationLine.text

def play (simulation : Simulation) (part : Simulation.Part) : IO Simulation := do
  if part = .second then
    IO.sleep 1000
  let after := simulation.playPart part
  (newLines simulation after).forM IO.println
  return after

def simulate (arguments : List String) : IO UInt32 := do
  match SimulationCommand.ofArguments arguments with
  | .error refusal => refuse refusal
  | .ok options =>
    match Simulation.start options with
    | .error error => write (.failure [] error)
    | .ok simulation =>
      discard <| Simulation.performance play .timeUp options.seconds.toNat simulation
      return 0

end RxSteering.Main

def main : List String → IO UInt32
  | "attach" :: arguments => RxSteering.Main.attach arguments
  | "simulate" :: arguments => RxSteering.Main.simulate arguments
  | _ => RxSteering.Main.refuse .misused
