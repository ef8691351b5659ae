import RxSteering.Arguments
import RxSteering.AttachCommand
import RxSteering.Bytes
import RxSteering.Call
import RxSteering.Classifier
import RxSteering.Counters
import RxSteering.CpuSet
import RxSteering.Error
import RxSteering.FileTree
import RxSteering.Host
import RxSteering.Identifiers
import RxSteering.Journal
import RxSteering.KernelClassifier
import RxSteering.KernelMap
import RxSteering.LoadedProgram
import RxSteering.Machine
import RxSteering.Main
import RxSteering.Object.Contents
import RxSteering.Object.DataLayout
import RxSteering.Object.Fault
import RxSteering.Object.File
import RxSteering.Object.Header
import RxSteering.Object.Instruction
import RxSteering.Object.LineInfo
import RxSteering.Object.Linking
import RxSteering.Object.MapShape
import RxSteering.Object.Outline
import RxSteering.Object.Relocation
import RxSteering.Object.Section
import RxSteering.Object.SectionKind
import RxSteering.Object.Symbol
import RxSteering.Object.TypeInfo
import RxSteering.Object.TypedMap
import RxSteering.Operation
import RxSteering.Proofs.Account
import RxSteering.Proofs.Attachments
import RxSteering.Proofs.BringUp
import RxSteering.Proofs.Confluence
import RxSteering.Proofs.Conservation
import RxSteering.Proofs.Counting
import RxSteering.Proofs.Courses
import RxSteering.Proofs.Delivery
import RxSteering.Proofs.Exchange
import RxSteering.Proofs.FailedBind
import RxSteering.Proofs.FrameEffect
import RxSteering.Proofs.FrameOutcome
import RxSteering.Proofs.HandleSearch
import RxSteering.Proofs.HandleSupply
import RxSteering.Proofs.Interleaving
import RxSteering.Proofs.Interlude
import RxSteering.Proofs.JournalLines
import RxSteering.Proofs.KernelAgreement
import RxSteering.Proofs.Lanes
import RxSteering.Proofs.Ledger
import RxSteering.Proofs.LedgerOrder
import RxSteering.Proofs.Linearization
import RxSteering.Proofs.Loading
import RxSteering.Proofs.MissPolicies
import RxSteering.Proofs.PartialMap
import RxSteering.Proofs.Passage
import RxSteering.Proofs.PayloadBook
import RxSteering.Proofs.QueueIndependence
import RxSteering.Proofs.Reachability
import RxSteering.Proofs.Refusals
import RxSteering.Proofs.RegistryRace
import RxSteering.Proofs.Reissue
import RxSteering.Proofs.Removals
import RxSteering.Proofs.Replay
import RxSteering.Proofs.Retries
import RxSteering.Proofs.RingFlow
import RxSteering.Proofs.RingHistory
import RxSteering.Proofs.Rings
import RxSteering.Proofs.SimulationAccount
import RxSteering.Proofs.SimulationBindings
import RxSteering.Proofs.SimulationFlow
import RxSteering.Proofs.SimulationReports
import RxSteering.Proofs.SimulationStart
import RxSteering.Proofs.SimulationTotals
import RxSteering.Proofs.Sockets
import RxSteering.Proofs.Steps
import RxSteering.Proofs.TableLookup
import RxSteering.Proofs.Teardown
import RxSteering.Proofs.Transcript
import RxSteering.Proofs.WalkAmongWrites
import RxSteering.Proofs.WholeCalls
import RxSteering.Registry
import RxSteering.Ring
import RxSteering.Settings
import RxSteering.Simulation
import RxSteering.SimulationCommand
import RxSteering.Slot
import RxSteering.SocketMap
import RxSteering.SystemError
import RxSteering.Table
import RxSteering.Text.Inspect
import RxSteering.Text.Layout
import RxSteering.Text.Lenient
import RxSteering.Text.Pieces
import RxSteering.Text.Quoted
import RxSteering.Text.Unprintable
import RxSteering.Walk
