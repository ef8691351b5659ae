import RxSteering.Proofs.PayloadBook

/-!
What entries say of a ring, and what happens to its queue. A ring accepts payloads at the end of its
queue and gives them out from the front, and it loses them only with its consumer; so what was
queued before and what is accepted is what is given out, what is lost and what is queued then, in
this order.
-/
namespace RxSteering

variable {β : Type} {host after : Host β}

/-- The fate that the entry states is what happened: one ring took the payload in at the end of its
queue, or no ring changed. -/
def Host.Placed (host after : Host β) (payload : β) : Entry β → Prop
  | .accepted id taken => taken = payload ∧ (host.ring id).hasRoom = true ∧
      after.rings = host.rings.set id ((host.ring id).push payload)
  | .returned given => given = payload ∧ after.rings = host.rings
  | .released lost => lost = payload ∧ after.rings = host.rings
  | _ => False

/-- The consumer takes these payloads out, first in first out. -/
structure Ring.Gives (ring : Ring β) (out : List β) (after : Ring β) : Prop where
  balance : ring.queued = out ++ after.queued
  present : out ≠ [] → ring.isClosed = false
  same : after.isClosed = ring.isClosed

theorem Ring.gives_tryReceive (ring : Ring β) :
    ring.Gives ring.tryReceive.1.toList ring.tryReceive.2 := by
  unfold tryReceive
  split
  next payload rest here =>
    exact ⟨by simp [queued, here], fun _ => by simp [isClosed, here], by simp [isClosed, here]⟩
  next => exact ⟨rfl, fun some => absurd rfl some, rfl⟩

theorem Ring.entries_receive (ring : Ring β) (id : RingId) :
    ring.entries id .receive = ring.tryReceive.1.toList.map (.received id) ∧
      ring.receive.2 = ring.tryReceive.2 := by
  simp only [entries, receive]
  cases ring.tryReceive with
  | mk taken after =>
    cases taken with
    | some payload => exact ⟨rfl, rfl⟩
    | none =>
      by_cases ended : ring.producers = 0
      · simp [ended]
      · simp [ended]

theorem Ring.gives_drain (ring : Ring β) : ring.Gives ring.drain.1 ring.drain.2 := by
  unfold drain
  split
  next queued here =>
    exact ⟨by simp [Ring.queued, here], fun _ => by simp [isClosed, here], by simp [isClosed, here]⟩
  next => exact ⟨rfl, fun some => absurd rfl some, rfl⟩

def Host.Unclosed (host : Host β) (id : RingId) : Prop :=
  (host.ring id).isClosed = false ∨ host.rings.length ≤ id

structure Flow (host : Host β) (entries : List (Entry β)) (after : Host β) : Prop where
  balance : ∀ id, (host.ring id).queued ++ entries.filterMap (Entry.accepted? id) =
    entries.filterMap (Entry.received? id) ++ entries.filterMap (Entry.discarded? id) ++
      (after.ring id).queued
  received : ∀ id, entries.filterMap (Entry.received? id) ≠ [] → (host.ring id).isClosed = false
  lasting : ∀ id, after.Unclosed id →
    entries.filterMap (Entry.discarded? id) = [] ∧ host.Unclosed id

namespace Flow

theorem of_consumers (same : after.consumers = host.consumers) : Flow host [] after where
  balance id := by
    simpa using (Ring.queued_of_consumer (Host.consumer_of_consumers same id)).symm
  received id some := absurd rfl some
  lasting id open' := by
    refine ⟨rfl, ?_⟩
    rwa [Host.Unclosed, Ring.isClosed_of_consumer (Host.consumer_of_consumers same id),
      Host.length_of_consumers same] at open'

theorem of_rings (same : after.rings = host.rings) : Flow host [] after :=
  of_consumers (congrArg (List.map Ring.consumer) same)

theorem handed {entries : List (Entry β)} (flow : Flow host entries after) (payload : β) :
    Flow host (.handed payload :: entries) after := ⟨flow.balance, flow.received, flow.lasting⟩

theorem returned {entries : List (Entry β)} (flow : Flow host entries after) (payload : β) :
    Flow host (.returned payload :: entries) after := ⟨flow.balance, flow.received, flow.lasting⟩

theorem released {entries : List (Entry β)} (flow : Flow host entries after) (payload : β) :
    Flow host (.released payload :: entries) after := ⟨flow.balance, flow.received, flow.lasting⟩

theorem of_placed {payload : β} {entry : Entry β} (placed : host.Placed after payload entry) :
    Flow host [entry] after := by
  cases entry with
  | handed payload => exact placed.elim
  | received ring payload => exact placed.elim
  | discarded ring payload => exact placed.elim
  | returned given => exact (of_rings placed.2).returned given
  | released lost => exact (of_rings placed.2).released lost
  | accepted id taken =>
    obtain ⟨rfl, room, rings⟩ := placed
    have present := Ring.not_isClosed_of_hasRoom room
    have changed (other : RingId) : after.ring other =
        if id = other then (host.ring id).push taken else host.ring other := by
      rw [← Host.ring_take room, Host.ring, Host.ring, rings, Host.rings_take]
    refine ⟨?_, fun other some => absurd rfl some, ?_⟩
    · intro other
      have accepts : [Entry.accepted id taken].filterMap (Entry.accepted? other) =
          if id = other then [taken] else [] := by
        by_cases same : id = other
        · simp [Entry.accepted?, same]
        · simp [Entry.accepted?, same]
      change _ = (after.ring other).queued
      rw [accepts, changed]
      by_cases same : id = other
      · subst same
        rw [if_pos rfl, if_pos rfl, Ring.queued_push]
      · rw [if_neg same, if_neg same, List.append_nil]
    · intro other open'
      refine ⟨rfl, ?_⟩
      by_cases same : id = other
      · exact .inl (same ▸ present)
      · rwa [Host.Unclosed, changed, if_neg same, rings, List.length_set] at open'

theorem of_modifyRing {id : RingId} {change : Ring β → Ring β} {entries : List (Entry β)}
    (inside : id < host.rings.length)
    (others : ∀ other, id ≠ other → ∀ entry ∈ entries, entry.accepted? other = none ∧
      entry.received? other = none ∧ entry.discarded? other = none)
    (balance : (host.ring id).queued ++ entries.filterMap (Entry.accepted? id) =
      entries.filterMap (Entry.received? id) ++ entries.filterMap (Entry.discarded? id) ++
        (change (host.ring id)).queued)
    (received : entries.filterMap (Entry.received? id) ≠ [] → (host.ring id).isClosed = false)
    (lasting : (change (host.ring id)).isClosed = false →
      entries.filterMap (Entry.discarded? id) = [] ∧ (host.ring id).isClosed = false) :
    Flow host entries (host.modifyRing id change) := by
  have size : (host.modifyRing id change).rings.length = host.rings.length := List.length_modify ..
  have accepts (other : RingId) (apart : id ≠ other) :
      entries.filterMap (Entry.accepted? other) = [] :=
    List.filterMap_eq_nil_iff.mpr fun entry member => (others other apart entry member).1
  have receives (other : RingId) (apart : id ≠ other) :
      entries.filterMap (Entry.received? other) = [] :=
    List.filterMap_eq_nil_iff.mpr fun entry member => (others other apart entry member).2.1
  have discards (other : RingId) (apart : id ≠ other) :
      entries.filterMap (Entry.discarded? other) = [] :=
    List.filterMap_eq_nil_iff.mpr fun entry member => (others other apart entry member).2.2
  refine ⟨?_, ?_, ?_⟩
  · intro other
    rw [host.ring_modifyRing]
    by_cases same : id = other
    · subst same
      rw [if_pos ⟨rfl, inside⟩]
      exact balance
    · rw [accepts other same, receives other same, discards other same,
        if_neg fun both => same both.1, List.append_nil, List.append_nil, List.nil_append]
  · intro other some
    by_cases same : id = other
    · subst same
      exact received some
    · exact absurd (receives other same) some
  · intro other open'
    rw [Host.Unclosed, host.ring_modifyRing, size] at open'
    by_cases same : id = other
    · subst same
      rw [if_pos ⟨rfl, inside⟩] at open'
      rcases open' with present | outside
      · exact ⟨(lasting present).1, .inl (lasting present).2⟩
      · exact absurd inside (Nat.not_lt.mpr outside)
    · rw [if_neg fun both => same both.1] at open'
      exact ⟨discards other same, open'⟩

theorem receives (id : RingId) (out : List β) :
    (out.map (Entry.received id)).filterMap (Entry.received? id) = out := by
  have same : Entry.received? id ∘ Entry.received id = (some : β → Option β) := by
    funext payload
    exact if_pos rfl
  rw [List.filterMap_map, same, List.filterMap_some]

theorem discards (id : RingId) (lost : List β) :
    (lost.map (Entry.discarded id)).filterMap (Entry.discarded? id) = lost := by
  have same : Entry.discarded? id ∘ Entry.discarded id = (some : β → Option β) := by
    funext payload
    exact if_pos rfl
  rw [List.filterMap_map, same, List.filterMap_some]

theorem of_gives {id : RingId} {change : Ring β → Ring β} {out : List β}
    (gives : (host.ring id).Gives out (change (host.ring id))) :
    Flow host (out.map (.received id)) (host.modifyRing id change) := by
  rcases Nat.lt_or_ge id host.rings.length with inside | outside
  · have accepted : (out.map (Entry.received id)).filterMap (Entry.accepted? id) = [] :=
      List.filterMap_eq_nil_iff.mpr (by simp [Entry.accepted?])
    have discarded : (out.map (Entry.received id)).filterMap (Entry.discarded? id) = [] :=
      List.filterMap_eq_nil_iff.mpr (by simp [Entry.discarded?])
    refine of_modifyRing inside ?_ ?_ ?_ ?_
    · intro other apart entry member
      obtain ⟨payload, -, rfl⟩ := List.mem_map.mp member
      exact ⟨rfl, if_neg apart, rfl⟩
    · rw [accepted, receives, discarded, List.append_nil, List.append_nil]
      exact gives.balance
    · rw [receives]
      exact gives.present
    · intro present
      exact ⟨discarded, gives.same ▸ present⟩
  · -- a ring that is not there gives nothing
    have none : out = [] := by
      by_contra some
      have present := gives.present some
      rw [Host.ring_of_outside outside] at present
      cases present
    subst none
    exact of_rings (List.modify_eq_self outside)

theorem of_dropConsumer (host : Host β) (id : RingId) :
    Flow host ((host.ring id).queued.map (.discarded id))
      (host.modifyRing id Ring.dropConsumer) := by
  rcases Nat.lt_or_ge id host.rings.length with inside | outside
  · have accepted : ((host.ring id).queued.map (Entry.discarded id)).filterMap
        (Entry.accepted? id) = [] := List.filterMap_eq_nil_iff.mpr (by simp [Entry.accepted?])
    have received : ((host.ring id).queued.map (Entry.discarded id)).filterMap
        (Entry.received? id) = [] := List.filterMap_eq_nil_iff.mpr (by simp [Entry.received?])
    refine of_modifyRing inside ?_ ?_ ?_ ?_
    · intro other apart entry member
      obtain ⟨payload, -, rfl⟩ := List.mem_map.mp member
      exact ⟨rfl, rfl, if_neg apart⟩
    · rw [accepted, received, discards]
      rfl
    · exact fun some => absurd received some
    · exact fun present => Bool.noConfusion present
  · have none : (host.ring id).queued = [] := by
      rw [Host.ring_of_outside outside]
      rfl
    rw [none]
    exact of_rings (List.modify_eq_self outside)

end Flow

end RxSteering
