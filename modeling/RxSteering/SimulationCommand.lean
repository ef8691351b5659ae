import RxSteering.Arguments
import RxSteering.Simulation

/-!
The command line of the simulation.
-/
namespace RxSteering.SimulationCommand

def options : List OptionSpec :=
  [{ name := "queues", kind := .word }, { name := "sockets", kind := .longWord },
    { name := "ring-depth", kind := .longWord }, { name := "miss" },
    { name := "rebind-ms", kind := .longWord }, { name := "seconds", kind := .longWord },
    { name := "pin", kind := .flag }]

def ofArguments (arguments : List String) : Except Arguments.Refusal SimulationOptions := do
  let base : SimulationOptions := {}
  let uses ← Arguments.read options arguments
  return {
    queues := Arguments.readOr Arguments.word? uses "queues" base.queues
    sockets := Arguments.readOr Arguments.longWord? uses "sockets" base.sockets
    ringDepth := Arguments.readOr Arguments.longWord? uses "ring-depth" base.ringDepth
    miss := Arguments.valueOr uses "miss" base.miss
    rebindMilliseconds :=
      Arguments.readOr Arguments.longWord? uses "rebind-ms" base.rebindMilliseconds
    seconds := Arguments.readOr Arguments.longWord? uses "seconds" base.seconds
    pin := Arguments.isGiven uses "pin" }

/-- The lines of a performance that is interrupted at the first report, if it has time for one. -/
def perform (options : SimulationOptions) : Except Error (List SimulationLine) := do
  let simulation ← Simulation.start options
  let performed ← Simulation.performance (fun simulation part => pure (simulation.playPart part))
    (if options.seconds = 0 then .timeUp else .interrupt) (min options.seconds.toNat 1) simulation
  return performed.lines

end RxSteering.SimulationCommand
