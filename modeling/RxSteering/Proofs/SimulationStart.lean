import RxSteering.Proofs.HandleSupply
import RxSteering.Proofs.Loading
import RxSteering.Proofs.SimulationFlow

/-!
What the simulation starts from. With options that it accepts, and not more sockets than there are
ids, it opens every socket and binds every queue but the last, going round the sockets; so the
balances hold before the first turn.
-/
namespace RxSteering

namespace Host

variable {host : Host Buffer} {table : Table} {miss : MissPolicy} {n : Nat}

structure Opened (host : Host Buffer) (table : Table) (miss : MissPolicy) (n : Nat) : Prop where
  table : host.table = table
  policies : host.policies = [miss]
  counters : (host.dispatcher 0).counters = {}
  nextHandle : (host.dispatcher 0).nextHandle = .ofNat n
  sockets : ∀ handle, host.socket? 0 handle =
    if handle.id.toNat < n then some handle.id.toNat else none
  rings : host.rings.length = n
  buffers : host.buffers = []

namespace Opened

theorem start (table : Table) (miss : MissPolicy) :
    (Host.start table [miss] : Host Buffer).Opened table miss 0 where
  table := rfl
  policies := rfl
  counters := rfl
  nextHandle := rfl
  sockets _ := rfl
  rings := rfl
  buffers := rfl

theorem inside (opened : host.Opened table miss n) : 0 < host.dispatchers.length := by
  have one : host.policies.length = 1 := by
    rw [opened.policies]
    rfl
  rw [Host.policies, List.length_map] at one
  omega

theorem fresh? (opened : host.Opened table miss n) (few : n < UInt32.size) :
    (host.dispatcher 0).registry.fresh? (host.dispatcher 0).nextHandle =
      some (⟨.ofNat n⟩, .ofNat (n + 1)) := by
  have free : (host.dispatcher 0).registry.isLive ⟨.ofNat n⟩ = false := by
    have here := opened.sockets ⟨.ofNat n⟩
    rw [UInt32.toNat_ofNat_of_lt' few, if_neg (Nat.lt_irrefl n)] at here
    exact not_isRegistered_iff.mpr here
  rw [opened.nextHandle, Registry.fresh?, Registry.passedOver?, free, UInt32.ofNat_add]
  simp

theorem next (opened : host.Opened table miss n) (few : n < UInt32.size) (depth : Nat) :
    (host.addRing depth).request 0 (.register host.rings.length) =
        (.registered ⟨.ofNat n⟩, [.registered ⟨.ofNat n⟩],
          (host.addRing depth).addSocket 0 ⟨.ofNat n⟩ (.ofNat (n + 1)) n) ∧
      ((host.addRing depth).addSocket 0 ⟨.ofNat n⟩ (.ofNat (n + 1)) n).Opened table miss
        (n + 1) := by
  have inside : 0 < (host.addRing depth).dispatchers.length := opened.inside
  have search : ((host.addRing depth).dispatcher 0).registry.fresh?
      ((host.addRing depth).dispatcher 0).nextHandle = some (⟨.ofNat n⟩, .ofNat (n + 1)) :=
    opened.fresh? few
  rw [opened.rings]
  refine ⟨request_register search n, ?_⟩
  refine ⟨opened.table, ?_, ?_, ?_, ?_, ?_, ?_⟩
  · refine Eq.trans ?_ opened.policies
    exact (host.addRing depth).policies_modifyDispatcher 0 _ fun _ => rfl
  · refine Eq.trans ?_ opened.counters
    exact (host.addRing depth).counters_modifyDispatcher 0 0 fun _ => rfl
  · exact nextHandle_addSocket inside _ _ _
  · intro handle
    rw [socket?_addSocket _ _ _ _ inside]
    change (if (⟨.ofNat n⟩ : SocketHandle) = handle then some n else host.socket? 0 handle) = _
    rw [opened.sockets]
    split
    next same =>
      subst same
      rw [UInt32.toNat_ofNat_of_lt' few, if_pos (Nat.lt_succ_self n)]
    next apart =>
      have other : handle.id.toNat ≠ n := by
        intro same
        apply apart
        rw [← same, UInt32.ofNat_toNat]
      by_cases below : handle.id.toNat < n
      · rw [if_pos below, if_pos (Nat.lt_succ_of_lt below)]
      · rw [if_neg below, if_neg (by omega)]
  · change ((host.rings ++ [Ring.ofDepth depth]).modify n Ring.addProducer).length = n + 1
    rw [List.length_modify, List.length_append, opened.rings]
    rfl
  · have same : ((host.addRing depth).addSocket 0 ⟨.ofNat n⟩ (.ofNat (n + 1)) n).consumers =
        (host.addRing depth).consumers :=
      ((host.addRing depth).modifyDispatcher 0 _).consumers_modifyRing n fun _ => rfl
    rw [buffers_of_consumers same]
    change (host.rings ++ [Ring.ofDepth depth]).flatMap Ring.queued = []
    rw [List.flatMap_append]
    change host.buffers ++ [] = []
    rw [opened.buffers]
    rfl

theorem openSockets (opened : host.Opened table miss 0) (depth : Nat) {n : Nat}
    (few : n ≤ UInt32.size) :
    (host.openSockets depth n).1 = (List.range n).map (⟨.ofNat ·⟩) ∧
      (host.openSockets depth n).2.Opened table miss n := by
  induction n with
  | zero => exact ⟨rfl, opened⟩
  | succ n ih =>
    obtain ⟨handles, before⟩ := ih (Nat.le_of_succ_le few)
    obtain ⟨request, after⟩ := before.next few depth
    unfold Host.openSockets
    simp only [request, handles]
    exact ⟨by rw [List.range_succ, List.map_append]; rfl, after⟩

theorem isRegistered (opened : host.Opened table miss n) (few : n ≤ UInt32.size) {i : Nat}
    (below : i < n) : host.isRegistered 0 ⟨.ofNat i⟩ = true := by
  apply Host.isRegistered_iff.mpr
  rw [opened.sockets, UInt32.toNat_ofNat_of_lt' (Nat.lt_of_lt_of_le below few), if_pos below]
  exact ⟨_, rfl⟩

end Opened

end Host

namespace Simulation

structure Started (simulation : Simulation) (queues sockets : Nat) (miss : MissPolicy) :
    Prop where
  handles : simulation.handles = (List.range sockets).map (⟨.ofNat ·⟩)
  bindings : ∀ queue, simulation.host.table.lookup queue =
    if queue.index.toNat < queues - 1 then some ⟨.ofNat (queue.index.toNat % sockets)⟩ else none
  live : ∀ handle ∈ simulation.handles, simulation.host.isRegistered 0 handle = true
  policies : simulation.host.policies = [miss]
  counters : simulation.counters = {}
  buffers : simulation.host.buffers = []
  pollers : ∀ poller ∈ simulation.pollers, poller.phase = .ready
  receivers : ∀ receiver ∈ simulation.receivers, receiver.phase = .ready ∧ receiver.bytes = 0
  rebinder : simulation.rebinder = {}
  clerk : simulation.clerk = .opening []
  last : simulation.last = {}
  received : simulation.received = 0
  lines : simulation.lines = []

namespace Started

variable {simulation : Simulation} {queues sockets : Nat} {miss : MissPolicy}

theorem wired (started : simulation.Started queues sockets miss) (some : 0 < sockets) :
    simulation.Wired where
  sockets := by
    rw [started.handles]
    simpa using Nat.ne_of_gt some
  live := started.live
  bound queue handle bound := by
    rw [started.bindings] at bound
    split at bound
    · cases bound
      rw [started.handles]
      exact List.mem_map_of_mem (List.mem_range.mpr (Nat.mod_lt _ some))
    · cases bound
  aimed poller member handle aims := by
    rw [started.pollers poller member] at aims
    cases aims
  calls call calls := by
    rw [started.rebinder] at calls
    cases calls

theorem resting (started : simulation.Started queues sockets miss) : simulation.Resting :=
  fun poller member => .inl (started.pollers poller member)

theorem accounted (started : simulation.Started queues sockets miss) :
    simulation.Accounted miss [] := by
  refine ⟨?_, ?_, ?_, ?_, List.not_mem_nil⟩
  · have one : simulation.host.policies.length = 1 := by
      rw [started.policies]
      rfl
    rw [Host.policies, List.length_map] at one
    omega
  · rw [started.counters, started.resting.halfCounted]
    rfl
  · rw [Host.miss_eq, started.policies]
    rfl
  · intro poller member
    rw [Poller.passage, started.pollers poller member]
    trivial

theorem flow (started : simulation.Started queues sockets miss) : simulation.Flow 0 0 := by
  have none : simulation.holding = 0 := by
    refine List.countP_eq_zero.mpr fun receiver member => ?_
    rw [(started.receivers receiver member).1]
    exact of_decide_eq_false rfl
  have zeros (n : Nat) : (List.replicate n (0 : UInt64)).foldr (· + ·) 0 = 0 := by
    induction n with
    | zero => rfl
    | succ n ih =>
      rw [List.replicate_succ, List.foldr_cons, ih]
      rfl
  refine ⟨?_, started.received, ?_, ?_⟩
  · rw [none, started.buffers]
    exact Nat.le_refl 0
  · rw [started.buffers]
    exact nofun
  · have bytes : simulation.receivers.map Receiver.bytes =
        List.replicate (simulation.receivers.map Receiver.bytes).length 0 := by
      refine List.eq_replicate_iff.mpr ⟨rfl, fun word member => ?_⟩
      obtain ⟨receiver, present, rfl⟩ := List.mem_map.mp member
      exact (started.receivers receiver present).2
    rw [bytes, zeros, none]
    rfl

end Started

end Simulation
end RxSteering
