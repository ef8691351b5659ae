import RxSteering.Call
import RxSteering.Settings

/-!
A simulation of steering at work. One poller for each queue feeds frames to a dispatcher, one
receiver for each socket takes them out of its ring, a rebinder keeps moving queues from socket to
socket, and a clerk reports the counters once a second and the totals at the end. The parties take
turns in any order; a turn reads or writes one shared thing, and everybody looks at the exit flag
only between two rounds of work.
-/
namespace RxSteering

structure Buffer where
  offset : UInt64
  length : UInt32
  deriving DecidableEq, Repr

def Buffer.size : UInt64 := 4096

def frameLength : UInt32 := 1500

/-- Turns take no time here, so the rebinder's period and the pinning of pollers to processors are
only carried along. -/
structure SimulationOptions where
  queues : UInt32 := 4
  sockets : UInt64 := 2
  ringDepth : UInt64 := 1024
  miss : String := "drop"
  rebindMilliseconds : UInt64 := 250
  seconds : UInt64 := 5
  pin : Bool := false
  deriving DecidableEq, Repr

inductive PollerPhase where
  | ready
  /-- the frame was counted; its queue is looked up next -/
  | counted
  /-- the frame was classified; the decision is carried out next -/
  | decided (decision : Decision)
  /-- the payload is where it goes; the outcome is counted next -/
  | settled (disposition : Disposition Buffer)
  | stopped
  deriving DecidableEq, Repr

structure Poller where
  queue : QueueId
  offset : UInt64 := 0
  phase : PollerPhase := .ready
  deriving DecidableEq, Repr

inductive ReceiverPhase where
  | ready
  | waiting
  /-- a buffer was taken out of the ring; it is counted next -/
  | holding
  | stopped
  deriving DecidableEq, Repr

structure Receiver where
  ring : RingId
  bytes : UInt64 := 0
  phase : ReceiverPhase := .ready
  deriving DecidableEq, Repr

inductive RebinderPhase where
  | ready
  | asleep
  | calling (call : Call)
  | stopped
  deriving DecidableEq, Repr

structure Rebinder where
  round : UInt64 := 0
  phase : RebinderPhase := .ready
  deriving DecidableEq, Repr

inductive ClerkPhase where
  /-- the counters are read for the first time, one by one in the order of their account -/
  | opening (taken : List UInt64)
  | watching
  /-- the counters are read for a report -/
  | reading (taken : List UInt64)
  /-- everybody was told to stop -/
  | closing
  | finished
  deriving DecidableEq, Repr

/-- What happened since the report before, and how many queues are bound. -/
structure Report where
  since : Counters
  bound : Nat
  deriving DecidableEq, Repr

structure Totals where
  counters : Counters
  received : UInt64
  bytes : UInt64
  deriving DecidableEq, Repr

inductive SimulationLine where
  | report (report : Report)
  | totals (totals : Totals)
  deriving DecidableEq, Repr

def rightAligned (width : Nat) (n : UInt64) : String :=
  let digits := toString n.toNat
  String.ofList (List.replicate (width - digits.length) ' ') ++ digits

def Report.text (report : Report) : String :=
  s!"frames {rightAligned 10 report.since.frames}/s  " ++
    s!"redirected {rightAligned 10 report.since.redirected}/s  " ++
    s!"unmapped {rightAligned 8 report.since.droppedUnmapped}/s  " ++
    s!"unavailable {rightAligned 8 report.since.droppedUnavailable}/s  " ++
    s!"passed {rightAligned 8 report.since.passed}/s  bound {report.bound}"

def Totals.text (totals : Totals) : String :=
  s!"total: {totals.counters.frames.toNat} frames, " ++
    s!"{totals.counters.redirected.toNat} redirected, " ++
    s!"{totals.counters.dropped.toNat} dropped, {totals.counters.passed.toNat} passed, " ++
    s!"{totals.received.toNat} received ({totals.bytes.toNat} bytes)"

def SimulationLine.text : SimulationLine → String
  | .report it => it.text
  | .totals it => it.text

structure Simulation where
  host : Host Buffer
  handles : List SocketHandle
  pollers : List Poller
  receivers : List Receiver
  rebinder : Rebinder := {}
  clerk : ClerkPhase := .opening []
  /-- the counters at the last report, or as they were read first -/
  last : Counters := {}
  received : UInt64 := 0
  exit : Bool := false
  timeUp : Bool := false
  lines : List SimulationLine := []
  deriving Repr

namespace SimulationOptions

def settings (options : SimulationOptions) : Except Error Settings := do
  let miss ← MissPolicy.parse options.miss
  let settings : Settings :=
    { capacity := options.queues, miss := miss, ringDepth := options.ringDepth }
  settings.validate
  return settings

def socketCount (options : SimulationOptions) : Nat := max options.sockets.toNat 1

end SimulationOptions

namespace Host

variable {β : Type}

def openSockets (host : Host β) (depth : Nat) : Nat → List SocketHandle × Host β
  | 0 => ([], host)
  | n + 1 =>
    let (handles, host) := host.openSockets depth n
    match (host.addRing depth).request 0 (.register host.rings.length) with
    | (.registered handle, _, after) => (handles ++ [handle], after)
    | (_, _, after) => (handles, after)

def bindAll (host : Host β) : List (QueueId × SocketHandle) → Except Error (Host β)
  | [] => .ok host
  | (queue, handle) :: rest =>
    match host.request 0 (.bind queue handle) with
    | (.refused error, _, _) => .error error
    | (_, _, after) => after.bindAll rest

end Host

namespace Simulation

/-- The queues but the last, each with a socket, going round the sockets. -/
def firstBindings (capacity : UInt32) (handles : List SocketHandle) :
    List (QueueId × SocketHandle) :=
  (List.range (capacity.toNat - 1)).map fun q =>
    (⟨UInt32.ofNat q⟩, handles.getD (q % handles.length) default)

def start (options : SimulationOptions) : Except Error Simulation := do
  let settings ← options.settings
  let table ← Table.ofCapacity settings.capacity
  let (handles, host) :=
    (Host.start table [settings.miss]).openSockets settings.ringDepth.toNat options.socketCount
  let host ← host.bindAll (firstBindings settings.capacity handles)
  return {
    host := host
    handles := handles
    pollers := (List.range settings.capacity.toNat).map fun q => { queue := ⟨UInt32.ofNat q⟩ }
    receivers := (List.range handles.length).map fun ring => { ring := ring } }

def counters (simulation : Simulation) : Counters := (simulation.host.dispatcher 0).counters

def poll (exit : Bool) (host : Host Buffer) (poller : Poller) : Host Buffer × Poller :=
  let payload : Buffer := ⟨poller.offset, frameLength⟩
  match poller.phase with
  | .ready =>
    if exit then (host, { poller with phase := .stopped })
    else (host.countFrame 0, { poller with phase := .counted })
  | .counted =>
    (host, { poller with phase := .decided ((host.classifier 0).classifyQueue poller.queue) })
  | .decided (.redirect handle) =>
    let (disposition, after) := host.offer 0 handle payload
    (after, { poller with phase := .settled disposition })
  | .decided .drop => (host, { poller with phase := .settled (.dropped .unmappedQueue) })
  | .decided .pass => (host, { poller with phase := .settled (.passed payload) })
  | .settled disposition =>
    (host.countOutcome 0 disposition,
      { poller with offset := poller.offset + Buffer.size, phase := .ready })
  | .stopped => (host, poller)

def pollerTurn (simulation : Simulation) (i : Nat) : Simulation :=
  match simulation.pollers[i]? with
  | none => simulation
  | some poller =>
    let (host, poller) := poll simulation.exit simulation.host poller
    { simulation with host := host, pollers := simulation.pollers.set i poller }

def receive (exit : Bool) (host : Host Buffer) (receiver : Receiver) : Host Buffer × Receiver :=
  match receiver.phase with
  | .ready =>
    if exit then
      (host.modifyRing receiver.ring Ring.dropConsumer, { receiver with phase := .stopped })
    else (host, { receiver with phase := .waiting })
  | .waiting =>
    match (host.ring receiver.ring).tryReceive with
    | (some buffer, after) =>
      (host.modifyRing receiver.ring fun _ => after,
        { receiver with bytes := receiver.bytes + buffer.length.toUInt64, phase := .holding })
    | (none, _) => (host, { receiver with phase := .ready })
  | .holding => (host, { receiver with phase := .ready })
  | .stopped => (host, receiver)

def receiverTurn (simulation : Simulation) (i : Nat) : Simulation :=
  match simulation.receivers[i]? with
  | none => simulation
  | some receiver =>
    let (host, after) := receive simulation.exit simulation.host receiver
    { simulation with
      host := host
      receivers := simulation.receivers.set i after
      received := if receiver.phase = .holding then simulation.received + 1
        else simulation.received }

/-- Every third round unbinds its queue, the others bind it to the next socket. -/
def rebindRequest (capacity : UInt32) (handles : List SocketHandle) (round : UInt64) : Request :=
  let queue : QueueId := ⟨(round % capacity.toUInt64).toUInt32⟩
  if round % 3 = 2 then .unbind queue
  else .bind queue (handles.getD (round.toNat % handles.length) default)

def rebinderTurn (simulation : Simulation) : Simulation :=
  let rebinder := simulation.rebinder
  match rebinder.phase with
  | .ready => { simulation with
      rebinder := { rebinder with phase := if simulation.exit then .stopped else .asleep } }
  | .asleep =>
    let request :=
      rebindRequest simulation.host.table.capacity simulation.handles rebinder.round
    { simulation with rebinder := { rebinder with phase := .calling (.asked request) } }
  | .calling call =>
    let step := simulation.host.step 0 call
    match step.progress with
    | .ongoing next => { simulation with
        host := step.host, rebinder := { rebinder with phase := .calling next } }
    | .finished _ => { simulation with
        host := step.host, rebinder := { round := rebinder.round + 1, phase := .ready } }
  | .stopped => simulation

def everybodyStopped (simulation : Simulation) : Bool :=
  simulation.pollers.all (fun poller => poller.phase = .stopped) &&
    simulation.rebinder.phase = .stopped &&
    simulation.receivers.all fun receiver => receiver.phase = .stopped

def totals (simulation : Simulation) : Totals where
  counters := simulation.counters
  received := simulation.received
  bytes := (simulation.receivers.map Receiver.bytes).foldr (· + ·) 0

def readOn (simulation : Simulation) (taken : List UInt64) : List UInt64 :=
  taken ++ [simulation.counters.account.getD taken.length 0]

def clerkTurn (simulation : Simulation) : Simulation :=
  match simulation.clerk with
  | .opening taken =>
    match Counters.ofAccount? taken with
    | some now => { simulation with clerk := .watching, last := now }
    | none => { simulation with clerk := .opening (simulation.readOn taken) }
  | .watching =>
    if simulation.exit || simulation.timeUp then { simulation with exit := true, clerk := .closing }
    else { simulation with clerk := .reading [] }
  | .reading taken =>
    match Counters.ofAccount? taken with
    | some now => { simulation with
        clerk := .watching
        last := now
        lines := simulation.lines ++
          [.report ⟨now.since simulation.last, simulation.host.table.count⟩] }
    | none => { simulation with clerk := .reading (simulation.readOn taken) }
  | .closing =>
    if simulation.everybodyStopped then
      { simulation with
        clerk := .finished
        lines := simulation.lines ++ [.totals simulation.totals] }
    else simulation
  | .finished => simulation

inductive Event where
  | poller (i : Nat)
  | receiver (i : Nat)
  | rebinder
  | clerk
  /-- somebody asks the simulation to stop -/
  | interrupt
  | timeUp
  deriving DecidableEq, Repr

def step (simulation : Simulation) : Event → Simulation
  | .poller i => simulation.pollerTurn i
  | .receiver i => simulation.receiverTurn i
  | .rebinder => simulation.rebinderTurn
  | .clerk => simulation.clerkTurn
  | .interrupt => { simulation with exit := true }
  | .timeUp => { simulation with timeUp := true }

def run (simulation : Simulation) (schedule : List Event) : Simulation :=
  schedule.foldl step simulation

def fairRound (simulation : Simulation) : List Event :=
  (List.range simulation.pollers.length).map .poller ++
    (List.range simulation.receivers.length).map .receiver ++ [.rebinder, .clerk]

def rounds (simulation : Simulation) (n : Nat) : List Event :=
  (List.replicate n simulation.fairRound).flatten

/-- The parts of a performance: the clerk opens, reports once a second, and everybody stops after the
event that ends it. -/
inductive Part where
  | opening
  | second
  | closing (ending : Event)
  deriving DecidableEq, Repr

/-- The rounds that the clerk needs to open and to report, and that everybody needs to stop. -/
def schedule (simulation : Simulation) : Part → List Event
  | .opening => simulation.rounds 6
  | .second => simulation.rounds 7
  | .closing ending => ending :: simulation.rounds 16

def playPart (simulation : Simulation) (part : Part) : Simulation :=
  simulation.run (simulation.schedule part)

section Performance

variable {m : Type → Type} [Monad m] (play : Simulation → Part → m Simulation) (ending : Event)

def playSeconds : Nat → Simulation → m Simulation
  | 0, simulation => play simulation (.closing ending)
  | seconds + 1, simulation => do playSeconds seconds (← play simulation .second)

/-- A whole performance, where `play` carries out one part of it. -/
def performance (seconds : Nat) (simulation : Simulation) : m Simulation := do
  playSeconds play ending seconds (← play simulation .opening)

end Performance

end Simulation
end RxSteering
